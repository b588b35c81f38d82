import UsbOverNetwork.Gui.HandlerThread

/-! What becomes of a connection that the accept thread of the GUI server has
added to the client manager: a handler thread removes it in the end, or nothing
ever does. -/
namespace UsbOverNetwork
open Runs

namespace GuiServer

/-- A client that `client_manager_add` takes is given a thread of its own. -/
def HandsOver (g : GuiServer) (outcome : ConnectOutcome) : Prop :=
  g.calls.server.manager.clientCount < maxClients → outcome.alloc = true →
    outcome.handlerData = true ∧ outcome.thread = true

instance (g : GuiServer) (outcome : ConnectOutcome) : Decidable (g.HandsOver outcome) :=
  inferInstanceAs (Decidable (_ → _ → _))

def Staffed (g : GuiServer) : Prop := ∀ pointer : ClientPtr, g.pcs[pointer]? ≠ some .unserved

variable {g next : GuiServer} {pointer : ClientPtr}

theorem step_unserved {action : GuiAction} (unconnected : action.connects = false)
    (stepped : step action g = some next) (pointer : ClientPtr) :
    next.pcs[pointer]? = some .unserved ↔ g.pcs[pointer]? = some .unserved := by
  cases step_threads stepped with
  | same _ _ _ _ pcs => rw [pcs]
  | joined _ _ _ _ connects =>
    rw [unconnected] at connects
    cases connects
  | turned mover _ _ _ pc onward _ _ there handled _ pcs _ _ =>
    obtain ⟨started,still,_⟩ := handlerThread_onward handled
    rw [pcs]
    by_cases same : mover = pointer
    · subst same
      rw [List.getElem?_set_self (List.getElem?_eq_some_iff.mp there).1,there]
      simp [started,still]
    · rw [List.getElem?_set_ne same]

theorem step_staffed {action : GuiAction} (unconnected : action.connects = false)
    (stepped : step action g = some next) : next.Staffed ↔ g.Staffed :=
  forall_congr' fun pointer => not_congr (step_unserved unconnected stepped pointer)

theorem Staged.left (staged : g.Staged) (unserved : g.pcs[pointer]? = some .unserved) :
    pointer ∈ g.calls.server.manager.clients ∧ ¬g.WillRemove pointer := by
  have bound : pointer < g.calls.threads.length :=
    staged.length ▸ (List.getElem?_eq_some_iff.mp unserved).1
  have here := List.getElem?_eq_getElem bound
  obtain ⟨result,idle⟩ := staged.allowed pointer _ _ here unserved
  have listed : pointer ∈ g.calls.server.manager.clients :=
    (staged.registered.listed pointer _ here).mpr (by rw [idle]; rfl)
  exact ⟨listed,fun removes => unserved_dead unserved (removes.alive [] g (.nil g) listed)⟩

theorem connect_staffed {socket : Socket} {ipAddress : CString 63} {port : UInt16}
    {outcome : ConnectOutcome} (stepped : step (.connect socket ipAddress port outcome) g = some next) :
    next.Staffed ↔ g.Staffed ∧ g.HandsOver outcome := by
  rcases connect_cases stepped with ⟨refused,pcs,_⟩ | ⟨room,alloc,pcs,_⟩
  · have passed : g.HandsOver outcome := fun room alloc => absurd ⟨room,alloc⟩ refused
    rw [Staffed,pcs]
    exact ⟨fun staffed => ⟨staffed,passed⟩,And.left⟩
  · have handed : g.HandsOver outcome ↔ outcome.handlerData = true ∧ outcome.thread = true :=
      ⟨fun passed => passed room alloc,fun both _ _ => both⟩
    rw [handed,Staffed,pcs,← Bool.and_eq_true]
    constructor
    · intro staffed
      refine ⟨fun pointer unserved => staffed pointer ?_,?_⟩
      · rw [List.getElem?_append_left (List.getElem?_eq_some_iff.mp unserved).1]
        exact unserved
      · have last := staffed g.pcs.length
        rw [List.getElem?_concat_length] at last
        cases both : (outcome.handlerData && outcome.thread) with
        | true => rfl
        | false => simp [both] at last
    · rintro ⟨staffed,both⟩ pointer
      rcases Nat.lt_or_ge pointer g.pcs.length with old | fresh
      · rw [List.getElem?_append_left old]
        exact staffed pointer
      · rw [List.getElem?_append_right fresh,both]
        intro unserved
        rcases List.getElem?_eq_some_iff.mp unserved with ⟨bound,same⟩
        have first : pointer - g.pcs.length = 0 := Nat.lt_one_iff.mp bound
        simp [first] at same

end GuiServer

namespace GuiListener

/-- Every client in the list will be removed by its handler thread, and one
whose hand-off failed is out of the list and freed, its socket closed. -/
structure Served (s : GuiListener) : Prop where
  handled : ∀ pointer ∈ s.gui.calls.server.manager.clients, s.gui.WillRemove pointer
  released : ∀ (pointer : ClientPtr) (thread : CallThread),
    s.gui.pcs[pointer]? = some .unserved → s.gui.calls.threads[pointer]? = some thread →
      pointer ∉ s.gui.calls.server.manager.clients ∧ thread.pc = .gone

def HandsOver : ListenerAction → GuiListener → Prop
  | .add outcome,s => s.gui.HandsOver outcome
  | _,_ => True

instance : (action : ListenerAction) → (s : GuiListener) → Decidable (HandsOver action s)
  | .add outcome,s => inferInstanceAs (Decidable (s.gui.HandsOver outcome))
  | .accept _ _ _,_ => isTrue trivial
  | .authenticate _,_ => isTrue trivial
  | .gui _,_ => isTrue trivial

variable {s next : GuiListener}

theorem served_iff_staffed (staged : s.gui.Staged) : s.Served ↔ s.gui.Staffed := by
  constructor
  · intro served pointer unserved
    obtain ⟨listed,never⟩ := staged.left unserved
    exact never (served.handled pointer listed)
  · intro staffed
    refine ⟨?_,fun pointer _ unserved => absurd unserved (staffed pointer)⟩
    intro pointer listed
    have known : pointer < s.gui.pcs.length := staged.length ▸ staged.registered.known pointer listed
    have going : GuiServer.Going pointer s.gui := ⟨staged,known,staffed pointer⟩
    exact going.willRemove

theorem step_gui {action : ListenerAction} (stepped : step action s = some next) :
    (next.gui = s.gui ∧ ∀ outcome, action ≠ .add outcome) ∨
    (∃ other, action = .gui other ∧ other.connects = false ∧
      GuiServer.step other s.gui = some next.gui) ∨
    ∃ socket ipAddress port outcome, action = .add outcome ∧
      GuiServer.step (.connect socket ipAddress port outcome) s.gui = some next.gui := by
  simp only [step] at stepped
  split at stepped
  next _ _ _ _ _ =>
    split at stepped
    next _ => cases stepped; exact Or.inl ⟨rfl,by simp⟩
    next _ => cases stepped
  next _ _ _ _ _ _ =>
    split at stepped <;> (cases stepped; exact Or.inl ⟨rfl,by simp⟩)
  next outcome _ socket ipAddress port _ =>
    obtain ⟨gui,connected,rfl⟩ := Option.map_eq_some_iff.mp stepped
    exact Or.inr (Or.inr ⟨socket,ipAddress,port,outcome,rfl,connected⟩)
  next other =>
    split at stepped
    next _ => cases stepped
    next unconnected =>
      obtain ⟨gui,moved,rfl⟩ := Option.map_eq_some_iff.mp stepped
      exact Or.inr (Or.inl ⟨other,rfl,by simpa using unconnected,moved⟩)
  next _ _ => cases stepped

theorem step_staged (action : ListenerAction) (s next : GuiListener) (staged : s.gui.Staged)
    (stepped : step action s = some next) : next.gui.Staged := by
  rcases step_gui stepped with ⟨same,_⟩ | ⟨other,_,_,moved⟩ | ⟨_,_,_,_,_,connected⟩
  · exact same ▸ staged
  · exact GuiServer.step_staged other s.gui next.gui staged moved
  · exact GuiServer.step_staged _ s.gui next.gui staged connected

theorem step_staffed (action : ListenerAction) (s next : GuiListener)
    (stepped : step action s = some next) :
    next.gui.Staffed ↔ s.gui.Staffed ∧ HandsOver action s := by
  rcases step_gui stepped with ⟨same,other⟩ | ⟨other,rfl,unconnected,moved⟩ | ⟨_,_,_,_,rfl,connected⟩
  · have passed : HandsOver action s := by
      cases action with
      | add outcome => exact absurd rfl (other outcome)
      | _ => trivial
    rw [same]
    exact ⟨fun staffed => ⟨staffed,passed⟩,And.left⟩
  · rw [GuiServer.step_staffed unconnected moved]
    exact ⟨fun staffed => ⟨staffed,trivial⟩,And.left⟩
  · exact GuiServer.connect_staffed connected

theorem startServer_staged (field : Token) : (startServer field).gui.Staged := GuiServer.start_staged

theorem startServer_staffed (field : Token) : (startServer field).gui.Staffed := by
  simp [startServer,GuiServer.Staffed,GuiServer.start]

/-- The clients of a run are all served exactly if, whenever `client_manager_add`
took one, there was memory for its handler data and its thread could be created. -/
theorem accepted_served_iff (field : Token) (actions : List ListenerAction) (final : GuiListener)
    (run : Run step (startServer field) actions final) :
    final.Served ↔ GuardedRun step HandsOver (startServer field) actions final := by
  have staged : final.gui.Staged :=
    run.invariant (fun s => s.gui.Staged) step_staged (startServer_staged field)
  have exactly := run.guarded_iff HandsOver (fun s => s.gui.Staffed) (fun _ => True)
    (fun _ _ _ _ _ => trivial) (fun action s next _ stepped => step_staffed action s next stepped) trivial
  rw [served_iff_staffed staged,exactly]
  exact ⟨And.right,fun guarded => ⟨startServer_staffed field,guarded⟩⟩

def admission (outcome : ConnectOutcome) : List ListenerAction :=
  [.accept Cli.visitor .empty 0,.authenticate patient,.add outcome]

theorem accepted_served_one : ∃ final,
    Run step init (admission ⟨true,true,true⟩) final ∧
    final.gui.calls.server.manager.clients = [0] ∧ final.Served := by
  obtain ⟨final,guarded,checked⟩ := guardedRun_of_check step HandsOver
    (fun action s => decide (HandsOver action s)) (fun _ _ allowed => of_decide_eq_true allowed)
    (admission ⟨true,true,true⟩) init
    (fun final => decide (final.gui.calls.server.manager.clients = [0])) (by decide +kernel)
  have run := guarded.run
  exact ⟨final,run,of_decide_eq_true checked,(accepted_served_iff .empty _ final run).mpr guarded⟩

/-- No thread can be created for sixteen visitors. They stay in the list, and
whoever comes after them is turned away. -/
theorem abandoned_clients_stay : ∃ final,
    Run step init
      ((List.replicate maxClients (admission ⟨true,true,false⟩)).flatten ++
        admission ⟨true,true,true⟩) final ∧
    final.gui.calls.server.manager.clients.length = maxClients ∧ final.connections = maxClients + 1 ∧
    final.gui.pcs = List.replicate maxClients .unserved ∧ ¬final.Served := by
  obtain ⟨final,run,checked⟩ := run_of_check step
    ((List.replicate maxClients (admission ⟨true,true,false⟩)).flatten ++
      admission ⟨true,true,true⟩) init
    (fun final => decide (final.gui.calls.server.manager.clients.length = maxClients ∧
      final.connections = maxClients + 1 ∧
      final.gui.pcs = List.replicate maxClients .unserved ∧
      0 ∈ final.gui.calls.server.manager.clients)) (by decide +kernel)
  obtain ⟨full,connections,pcs,listed⟩ := of_decide_eq_true checked
  refine ⟨final,run,full,connections,pcs,fun served => ?_⟩
  have alive := (served.handled 0 listed).alive [] final.gui (.nil _) listed
  exact GuiServer.unserved_dead (by rw [pcs]; rfl) alive

end GuiListener

end UsbOverNetwork
