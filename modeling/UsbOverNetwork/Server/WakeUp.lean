import UsbOverNetwork.Server.UrbSystem

/-! The event that wakes the worker of a URB handler. The worker waits for it
for 100 ms at most and then looks again; it never has to. -/
namespace UsbOverNetwork
open Runs

/-- `signalled` is the auto-reset event `pending.notify`. A thread is
`announcing` between its push and `event_signal`, and `stopping` between
`running = false` and `event_signal`. -/
structure WakeSystem where
  system : UrbSystem
  signalled : Bool
  announcing : Bool
  stopping : Bool

inductive WakeAction
  | urb (action : UrbAction)
  | announce
  | announceStop
  | woken
  | timedOut
  | waitFails

namespace WakeSystem

def started (device : Busid) : WakeSystem := ⟨.started device,false,false,false⟩

/-- A thread in the middle of `queue_push` or of `urb_handler_stop` goes on with
that, and the wait of the worker ends by the event or by its time. -/
def allows (s : WakeSystem) : UrbAction → Bool
  | .submit _ _ _ _ _ => !s.announcing
  | .unlink _ => !s.announcing
  | .unlinkPush => !s.announcing
  | .getCompleted => !s.announcing
  | .deliver _ => !s.announcing
  | .worker _ _ => s.system.handler.worker ≠ .wait
  | .stop => !s.stopping
  | .join => !s.stopping
  | .cancelAll => !s.stopping
  | .cancelPop => !s.stopping
  | .cancelPush => !s.stopping

def pushes (s : WakeSystem) : UrbAction → Bool
  | .submit header data entryAlloc bufferAlloc now =>
    (urbHandlerSubmit s.system.handler header data entryAlloc bufferAlloc now).1 = .success
  | _ => false

def stops (s : WakeSystem) : UrbAction → Bool
  | .stop => s.system.handler.running
  | _ => false

/-- The worker comes back from its wait; there is no transfer in this step. -/
def waited (failed : Bool) (s : WakeSystem) : WakeSystem :=
  {s with system := {s.system with
    handler := urbWorkerStep none ⟨⟨true,false,0,[]⟩,failed⟩ s.system.handler}}

def step : WakeAction → WakeSystem → Option WakeSystem
  | .urb action,s =>
    if s.allows action then
      (UrbSystem.step action s.system).map fun system => {s with
        system
        announcing := s.announcing || s.pushes action
        stopping := s.stopping || s.stops action}
    else none
  | .announce,s =>
    if s.announcing then some {s with signalled := true, announcing := false} else none
  | .announceStop,s =>
    if s.stopping then some {s with signalled := true, stopping := false} else none
  | .woken,s =>
    if s.system.handler.worker = .wait ∧ s.signalled then some {s.waited false with signalled := false}
    else none
  | .timedOut,s =>
    if s.system.handler.worker = .wait ∧ !s.signalled then some (s.waited false) else none
  | .waitFails,s => if s.system.handler.worker = .wait then some (s.waited true) else none

structure Awake (s : WakeSystem) : Prop where
  work : s.system.handler.worker = .wait → s.system.handler.pending ≠ [] → s.signalled ∨ s.announcing
  stop : s.system.handler.worker = .pop ∨ s.system.handler.worker = .wait →
    s.system.handler.running = false → s.signalled ∨ s.stopping

structure Beside (s : WakeSystem) (action : UrbAction) (next : UrbSystem) : Prop where
  worker : next.handler.worker = s.system.handler.worker
  pending : next.handler.pending ≠ [] → s.system.handler.pending ≠ [] ∨ s.pushes action
  running : next.handler.running = false → s.system.handler.running = false ∨ s.stops action

theorem Beside.same {s : WakeSystem} {action : UrbAction} {next : UrbSystem}
    (worker : next.handler.worker = s.system.handler.worker)
    (pending : next.handler.pending = s.system.handler.pending)
    (running : next.handler.running = s.system.handler.running) : Beside s action next :=
  ⟨worker,fun some => .inl (pending ▸ some),fun stopped => .inl (running ▸ stopped)⟩

theorem beside {s : WakeSystem} {action : UrbAction} {next : UrbSystem}
    (stepped : UrbSystem.step action s.system = some next)
    (other : ∀ device outcome, action ≠ .worker device outcome) : Beside s action next := by
  cases action with
  | submit header data entryAlloc bufferAlloc now =>
    simp only [UrbSystem.step] at stepped
    split at stepped
    next =>
      cases Option.some.inj stepped
      rcases urbHandlerSubmit_result s.system.handler header data entryAlloc bufferAlloc now with
        ⟨error,_,refused⟩ | ⟨entry,_,_,_,accepted⟩
      · rw [refused]
        exact .same rfl rfl rfl
      · have pushed : s.pushes (.submit header data entryAlloc bufferAlloc now) = true := by
          simp [pushes,accepted]
        rw [accepted]
        exact ⟨rfl,fun _ => .inr pushed,.inl⟩
    next => cases stepped
  | unlink seqnum =>
    simp only [UrbSystem.step] at stepped
    split at stepped
    next =>
      rcases urbHandlerUnlinkRemove_cases s.system.handler seqnum with
        absent | ⟨before,entry,after,queue,removed⟩
      · simp only [absent,Option.some.injEq] at stepped
        exact stepped ▸ .same rfl rfl rfl
      · simp only [removed,Option.some.injEq] at stepped
        subst stepped
        exact ⟨rfl,fun _ => .inl (by simp [queue]),.inl⟩
    next => cases stepped
  | unlinkPush =>
    simp only [UrbSystem.step] at stepped
    split at stepped
    next => exact Option.some.inj stepped ▸ .same rfl rfl rfl
    next => cases stepped
  | getCompleted =>
    simp only [UrbSystem.step] at stepped
    split at stepped
    next =>
      rcases urbHandlerGetCompleted_cases s.system.handler with empty | ⟨entry,rest,_,popped⟩
      · simp only [empty,Option.some.injEq] at stepped
        exact stepped ▸ .same rfl rfl rfl
      · simp only [popped,Option.some.injEq] at stepped
        exact stepped ▸ .same rfl rfl rfl
    next => cases stepped
  | deliver sent =>
    simp only [UrbSystem.step] at stepped
    split at stepped
    next => cases sent <;> exact Option.some.inj stepped ▸ .same rfl rfl rfl
    next => cases stepped
  | worker device outcome => exact absurd rfl (other device outcome)
  | stop =>
    simp only [UrbSystem.step] at stepped
    split at stepped
    next =>
      split at stepped
      next runs => exact Option.some.inj stepped ▸ ⟨rfl,.inl,fun _ => .inr runs⟩
      next => exact Option.some.inj stepped ▸ .same rfl rfl rfl
    next => cases stepped
  | join =>
    simp only [UrbSystem.step] at stepped
    split at stepped
    next => exact Option.some.inj stepped ▸ .same rfl rfl rfl
    next => cases stepped
  | cancelAll =>
    simp only [UrbSystem.step] at stepped
    split at stepped
    next => exact Option.some.inj stepped ▸ .same rfl rfl rfl
    next => cases stepped
  | cancelPop =>
    simp only [UrbSystem.step] at stepped
    split at stepped
    next =>
      cases queue : s.system.handler.pending with
      | nil =>
        simp only [queue,queuePop,Option.some.injEq] at stepped
        exact stepped ▸ .same rfl rfl rfl
      | cons entry rest =>
        simp only [queue,queuePop,Option.some.injEq] at stepped
        subst stepped
        exact ⟨rfl,fun _ => .inl (by simp [queue]),.inl⟩
    next => cases stepped
  | cancelPush =>
    simp only [UrbSystem.step] at stepped
    split at stepped
    next => exact Option.some.inj stepped ▸ .same rfl rfl rfl
    next => cases stepped

theorem started_awake (device : Busid) : (started device).Awake :=
  ⟨by simp [started,UrbSystem.started,urbHandlerStarted],by simp [started,UrbSystem.started,urbHandlerStarted]⟩

theorem Awake.beside {s : WakeSystem} {action : UrbAction} {next : UrbSystem} (awake : s.Awake)
    (change : Beside s action next) :
    Awake ⟨next,s.signalled,s.announcing || s.pushes action,s.stopping || s.stops action⟩ where
  work waits some := by
    dsimp only at *
    rcases change.pending some with before | pushed
    · rcases awake.work (change.worker ▸ waits) before with signalled | announcing
      · exact .inl signalled
      · exact .inr (by rw [announcing,Bool.true_or])
    · exact .inr (by rw [pushed,Bool.or_true])
  stop looks stopped := by
    dsimp only at *
    rcases change.running stopped with before | now
    · rcases awake.stop (change.worker ▸ looks) before with signalled | stopping
      · exact .inl signalled
      · exact .inr (by rw [stopping,Bool.true_or])
    · exact .inr (by rw [now,Bool.or_true])

/-- The worker goes to the event only from an empty queue, and to the queue only
while the handler runs. -/
theorem Awake.worker {s : WakeSystem} (awake : s.Awake) (device : Option UsbDevice)
    (outcome : WorkerOutcome) (busy : s.system.handler.worker ≠ .wait) :
    Awake {s with system := {s.system with handler := urbWorkerStep device outcome s.system.handler}} := by
  cases at_pc : s.system.handler.worker with
  | test =>
    cases runs : s.system.handler.running with
    | true => exact ⟨by simp [urbWorkerStep,at_pc,runs],by simp [urbWorkerStep,at_pc,runs]⟩
    | false => exact ⟨by simp [urbWorkerStep,at_pc,runs],by simp [urbWorkerStep,at_pc,runs]⟩
  | pop =>
    cases queue : s.system.handler.pending with
    | nil =>
      refine ⟨by simp [urbWorkerStep,at_pc,queue,queuePop],?_⟩
      intro _ stopped
      apply awake.stop (.inl at_pc)
      simpa [urbWorkerStep,at_pc,queue,queuePop] using stopped
    | cons entry rest =>
      exact ⟨by simp [urbWorkerStep,at_pc,queue,queuePop],by simp [urbWorkerStep,at_pc,queue,queuePop]⟩
  | wait => exact absurd at_pc busy
  | exec entry => exact ⟨by simp [urbWorkerStep,at_pc],by simp [urbWorkerStep,at_pc]⟩
  | push entry => exact ⟨by simp [urbWorkerStep,at_pc],by simp [urbWorkerStep,at_pc]⟩
  | stopped =>
    have same : urbWorkerStep device outcome s.system.handler = s.system.handler := by
      simp [urbWorkerStep,at_pc]
    rw [same]
    exact awake

theorem waited_worker (failed : Bool) {s : WakeSystem} (waits : s.system.handler.worker = .wait) :
    (s.waited failed).system.handler =
      {s.system.handler with worker := if failed then .stopped else .test} := by
  simp [waited,urbWorkerStep,waits]

theorem awake_waited (failed signalled : Bool) {s : WakeSystem}
    (waits : s.system.handler.worker = .wait) : Awake {s.waited failed with signalled} := by
  have handler := waited_worker failed waits
  constructor
  · intro still
    rw [handler] at still
    cases failed <;> cases still
  · intro still
    rw [handler] at still
    cases failed <;> simp at still

theorem step_awake (action : WakeAction) (s next : WakeSystem) (awake : s.Awake)
    (stepped : step action s = some next) : next.Awake := by
  cases action with
  | urb action =>
    obtain ⟨allowed,moved⟩ := Option.ite_none_right_eq_some.mp stepped
    obtain ⟨system,taken,same⟩ := Option.map_eq_some_iff.mp moved
    subst same
    by_cases worker : ∃ device outcome, action = .worker device outcome
    · obtain ⟨device,outcome,rfl⟩ := worker
      cases Option.some.inj taken
      simpa [pushes,stops] using awake.worker device outcome (by simpa [allows] using allowed)
    · exact awake.beside (WakeSystem.beside taken fun device outcome same =>
        worker ⟨device,outcome,same⟩)
  | announce =>
    obtain ⟨_,same⟩ := Option.ite_none_right_eq_some.mp stepped
    cases same
    exact ⟨fun _ _ => .inl rfl,fun _ _ => .inl rfl⟩
  | announceStop =>
    obtain ⟨_,same⟩ := Option.ite_none_right_eq_some.mp stepped
    cases same
    exact ⟨fun _ _ => .inl rfl,fun _ _ => .inl rfl⟩
  | woken =>
    obtain ⟨⟨waits,_⟩,same⟩ := Option.ite_none_right_eq_some.mp stepped
    cases same
    exact awake_waited false false waits
  | timedOut =>
    obtain ⟨⟨waits,_⟩,same⟩ := Option.ite_none_right_eq_some.mp stepped
    cases same
    exact awake_waited false s.signalled waits
  | waitFails =>
    obtain ⟨waits,same⟩ := Option.ite_none_right_eq_some.mp stepped
    cases same
    exact awake_waited true s.signalled waits

theorem run_awake {device : Busid} {actions : List WakeAction} {reached : WakeSystem}
    (run : Run step (started device) actions reached) : reached.Awake :=
  run.invariant Awake step_awake (started_awake device)

/-- The worker, and the signals that are under way. The wait does not end by its time. -/
def unaided : WakeAction → Bool
  | .urb (.worker _ _) => true
  | .urb _ => false
  | .announce => true
  | .announceStop => true
  | .woken => true
  | .timedOut => false
  | .waitFails => false

def Unaided (s t : WakeSystem) : Prop :=
  ∃ actions, (∀ action ∈ actions, unaided action = true) ∧ Run step s actions t

variable {s t u : WakeSystem}

theorem Unaided.refl (s : WakeSystem) : Unaided s s := ⟨[],by simp,.nil _⟩

theorem Unaided.trans (first : Unaided s t) (second : Unaided t u) : Unaided s u := by
  obtain ⟨heads,allowed,head⟩ := first
  obtain ⟨tails,permitted,tail⟩ := second
  refine ⟨heads ++ tails,?_,head.append tail⟩
  intro action listed
  exact (List.mem_append.mp listed).elim (allowed action) (permitted action)

theorem Unaided.single {action : WakeAction} (allowed : unaided action = true)
    (taken : step action s = some t) : Unaided s t :=
  ⟨[action],by simpa using allowed,.single action taken⟩

theorem Unaided.worker (s : WakeSystem) (device : Option UsbDevice) (outcome : WorkerOutcome)
    (busy : s.system.handler.worker ≠ .wait) :
    Unaided s {s with system := {s.system with handler := urbWorkerStep device outcome s.system.handler}} := by
  apply @Unaided.single _ _ (.urb (.worker device outcome)) rfl
  simp [step,allows,busy,UrbSystem.step,pushes,stops]

structure Back (s t : WakeSystem) : Prop where
  run : Unaided s t
  worker : t.system.handler.worker = .test
  pending : t.system.handler.pending = s.system.handler.pending
  running : t.system.handler.running = s.system.handler.running

theorem Back.after (first : Unaided s t) (back : Back t u)
    (pending : t.system.handler.pending = s.system.handler.pending)
    (running : t.system.handler.running = s.system.handler.running) : Back s u :=
  ⟨first.trans back.run,back.worker,back.pending.trans pending,back.running.trans running⟩

theorem signalled_back (waits : s.system.handler.worker = .wait) (signalled : s.signalled = true) :
    ∃ t, Back s t := by
  have handler := waited_worker false waits
  refine ⟨{s.waited false with signalled := false},@Unaided.single _ _ .woken rfl ?_,?_,?_,?_⟩
  · simp [step,waits,signalled]
  · rw [handler]
    rfl
  · rw [handler]
  · rw [handler]

theorem waiting_back (waits : s.system.handler.worker = .wait)
    (awake : s.signalled = true ∨ s.announcing = true ∨ s.stopping = true) : ∃ t, Back s t := by
  rcases awake with signalled | announcing | stopping
  · exact signalled_back waits signalled
  · have first : Unaided s {s with signalled := true, announcing := false} := by
      apply @Unaided.single _ _ .announce rfl
      simp [step,announcing]
    obtain ⟨t,back⟩ := @signalled_back {s with signalled := true, announcing := false} waits rfl
    exact ⟨t,back.after first rfl rfl⟩
  · have first : Unaided s {s with signalled := true, stopping := false} := by
      apply @Unaided.single _ _ .announceStop rfl
      simp [step,stopping]
    obtain ⟨t,back⟩ := @signalled_back {s with signalled := true, stopping := false} waits rfl
    exact ⟨t,back.after first rfl rfl⟩

def turn (s : WakeSystem) : WakeSystem :=
  {s with system := {s.system with
    handler := urbWorkerStep none ⟨⟨true,false,0,[]⟩,false⟩ s.system.handler}}

theorem turn_unaided (busy : s.system.handler.worker ≠ .wait) : Unaided s s.turn :=
  .worker s none _ busy

theorem push_back {entry : UrbEntry} (pushes : s.system.handler.worker = .push entry) :
    ∃ t, Back s t := by
  refine ⟨s.turn,turn_unaided (by simp [pushes]),?_,?_,?_⟩ <;> simp [turn,urbWorkerStep,pushes]

theorem exec_back {entry : UrbEntry} (executes : s.system.handler.worker = .exec entry) :
    ∃ t, Back s t := by
  have pushes : s.turn.system.handler.worker = .push (entry.executed none ⟨true,false,0,[]⟩) := by
    simp [turn,urbWorkerStep,executes]
  obtain ⟨t,back⟩ := push_back pushes
  refine ⟨t,back.after (turn_unaided (by simp [executes])) ?_ ?_⟩ <;> simp [turn,urbWorkerStep,executes]

theorem test_stops (tests : s.system.handler.worker = .test) (stopped : s.system.handler.running = false) :
    ∃ t, Unaided s t ∧ t.system.handler.worker = .stopped :=
  ⟨s.turn,turn_unaided (by simp [tests]),by simp [turn,urbWorkerStep,tests,stopped]⟩

theorem Back.stops (back : Back s t) (stopped : s.system.handler.running = false) :
    ∃ t, Unaided s t ∧ t.system.handler.worker = .stopped := by
  obtain ⟨u,rest,ended⟩ := test_stops back.worker (back.running.trans stopped)
  exact ⟨u,back.run.trans rest,ended⟩

theorem Awake.ends (awake : s.Awake) (stopped : s.system.handler.running = false) :
    ∃ t, Unaided s t ∧ t.system.handler.worker = .stopped := by
  cases at_pc : s.system.handler.worker with
  | test => exact test_stops at_pc stopped
  | pop =>
    have popped : Unaided s s.turn := turn_unaided (by simp [at_pc])
    cases queue : s.system.handler.pending with
    | nil =>
      have waits : s.turn.system.handler.worker = .wait := by
        simp [turn,urbWorkerStep,at_pc,queue,queuePop]
      have signal := awake.stop (.inl at_pc) stopped
      obtain ⟨t,back⟩ := waiting_back waits (signal.imp id .inr)
      obtain ⟨u,rest,ended⟩ := back.stops (by simpa [turn,urbWorkerStep,at_pc,queue,queuePop] using stopped)
      exact ⟨u,popped.trans rest,ended⟩
    | cons entry rest =>
      have executes : s.turn.system.handler.worker = .exec {entry with inProgress := true} := by
        simp [turn,urbWorkerStep,at_pc,queue,queuePop]
      obtain ⟨t,back⟩ := exec_back executes
      obtain ⟨u,rest,ended⟩ := back.stops (by simpa [turn,urbWorkerStep,at_pc,queue,queuePop] using stopped)
      exact ⟨u,popped.trans rest,ended⟩
  | wait =>
    obtain ⟨t,back⟩ := waiting_back at_pc ((awake.stop (.inr at_pc) stopped).imp id .inr)
    exact back.stops stopped
  | exec entry =>
    obtain ⟨t,back⟩ := exec_back at_pc
    exact back.stops stopped
  | push entry =>
    obtain ⟨t,back⟩ := push_back at_pc
    exact back.stops stopped
  | stopped => exact ⟨s,.refl s,at_pc⟩

def Serves (entry : UrbEntry) (rest : List UrbEntry) (t : WakeSystem) : Prop :=
  t.system.handler.worker = .exec {entry with inProgress := true} ∧ t.system.handler.pending = rest

variable {entry : UrbEntry} {rest : List UrbEntry}

theorem pop_serves (pops : s.system.handler.worker = .pop) (queue : s.system.handler.pending = entry::rest) :
    ∃ t, Unaided s t ∧ Serves entry rest t := by
  refine ⟨s.turn,turn_unaided (by simp [pops]),?_,?_⟩ <;>
  simp [turn,urbWorkerStep,pops,queue,queuePop]

theorem test_serves (tests : s.system.handler.worker = .test) (runs : s.system.handler.running = true)
    (queue : s.system.handler.pending = entry::rest) : ∃ t, Unaided s t ∧ Serves entry rest t := by
  have pops : s.turn.system.handler.worker = .pop := by simp [turn,urbWorkerStep,tests,runs]
  have waiting : s.turn.system.handler.pending = entry::rest := by
    simp [turn,urbWorkerStep,tests,queue]
  obtain ⟨t,run,serves⟩ := pop_serves pops waiting
  exact ⟨t,(turn_unaided (by simp [tests])).trans run,serves⟩

theorem Back.serves (back : Back s t) (runs : s.system.handler.running = true)
    (queue : s.system.handler.pending = entry::rest) : ∃ t, Unaided s t ∧ Serves entry rest t := by
  obtain ⟨u,run,serves⟩ := test_serves back.worker (back.running.trans runs) (back.pending.trans queue)
  exact ⟨u,back.run.trans run,serves⟩

theorem Awake.serves (awake : s.Awake) (alive : s.system.handler.worker ≠ .stopped)
    (runs : s.system.handler.running = true) (queue : s.system.handler.pending = entry::rest) :
    ∃ t, Unaided s t ∧ Serves entry rest t := by
  cases at_pc : s.system.handler.worker with
  | test => exact test_serves at_pc runs queue
  | pop => exact pop_serves at_pc queue
  | wait =>
    obtain ⟨t,back⟩ := waiting_back at_pc ((awake.work at_pc (by simp [queue])).imp id .inl)
    exact back.serves runs queue
  | exec entry =>
    obtain ⟨t,back⟩ := exec_back at_pc
    exact back.serves runs queue
  | push entry =>
    obtain ⟨t,back⟩ := push_back at_pc
    exact back.serves runs queue
  | stopped => exact absurd at_pc alive

theorem projects {actions : List WakeAction} (run : Run step s actions t) :
    ∃ acts, Run UrbSystem.step s.system acts t.system := by
  have waits (failed : Bool) (s : WakeSystem) : UrbSystem.step (.worker none ⟨⟨true,false,0,[]⟩,failed⟩) s.system =
      some (s.waited failed).system := rfl
  have stepped : ∀ action s next, step action s = some next → next.system = s.system ∨
      ∃ act, True ∧ UrbSystem.step act s.system = some next.system := by
    intro action s next taken
    cases action with
    | urb action =>
      obtain ⟨_,moved⟩ := Option.ite_none_right_eq_some.mp taken
      obtain ⟨system,moved,same⟩ := Option.map_eq_some_iff.mp moved
      exact .inr ⟨action,trivial,same ▸ moved⟩
    | announce =>
      obtain ⟨_,same⟩ := Option.ite_none_right_eq_some.mp taken
      exact .inl (Option.some.inj same ▸ rfl)
    | announceStop =>
      obtain ⟨_,same⟩ := Option.ite_none_right_eq_some.mp taken
      exact .inl (Option.some.inj same ▸ rfl)
    | woken =>
      obtain ⟨_,same⟩ := Option.ite_none_right_eq_some.mp taken
      cases same
      exact .inr ⟨_,trivial,waits false s⟩
    | timedOut =>
      obtain ⟨_,same⟩ := Option.ite_none_right_eq_some.mp taken
      cases same
      exact .inr ⟨_,trivial,waits false s⟩
    | waitFails =>
      obtain ⟨_,same⟩ := Option.ite_none_right_eq_some.mp taken
      cases same
      exact .inr ⟨_,trivial,waits true s⟩
  obtain ⟨acts,guarded⟩ := @Run.stutter _ _ _ _ _ UrbSystem.step (fun _ _ => True) WakeSystem.system stepped _ _ _ run
  exact ⟨acts,guarded.run⟩

/-- No signal is lost: in every state the worker is woken for what it waits for,
executes the next URB and ends when it is told to, without the end of its 100 ms. -/
theorem event_suffices {device : Busid} {actions : List WakeAction}
    (run : Run step (started device) actions s) :
    (∃ acts, Run UrbSystem.step (.started device) acts s.system) ∧
    (s.system.handler.worker = .wait → s.system.handler.pending ≠ [] → s.signalled ∨ s.announcing) ∧
    (s.system.handler.worker = .wait → s.system.handler.running = false → s.signalled ∨ s.stopping) ∧
    (s.system.handler.running = false → ∃ t, Unaided s t ∧ t.system.handler.worker = .stopped) ∧
    ∀ entry rest, s.system.handler.worker ≠ .stopped → s.system.handler.running = true →
      s.system.handler.pending = entry::rest → ∃ t, Unaided s t ∧ Serves entry rest t := by
  have awake := run_awake run
  refine ⟨projects run,awake.work,fun waits => awake.stop (.inr waits),awake.ends,?_⟩
  intro entry rest alive runs queue
  exact awake.serves alive runs queue

/-- The worker has gone to the event, and then a request comes in. -/
def lateRead : List WakeAction :=
  let turn := WakeAction.urb (.worker none ⟨⟨true,false,0,[]⟩,false⟩)
  [turn,turn,.urb (.submit (.read 1 4) [] true true 0)]

theorem event_suffices_late : ∃ s, Run step (started .empty) lateRead s ∧ s.signalled = false ∧
    s.system.handler.worker = .wait ∧ ∃ entry t, Unaided s t ∧ Serves entry [] t := by
  obtain ⟨s,run,checked⟩ := run_of_check step lateRead (started .empty)
    (fun s => s.signalled = false ∧ s.system.handler.worker = .wait ∧ s.system.handler.running = true ∧
      s.system.handler.pending.length = 1) (by decide +kernel)
  obtain ⟨silent,waits,runs,one⟩ := of_decide_eq_true checked
  obtain ⟨entry,queue⟩ := List.length_eq_one_iff.mp one
  obtain ⟨_,_,_,_,serves⟩ := event_suffices run
  obtain ⟨t,unaided,reached⟩ := serves entry [] (by simp [waits]) runs queue
  exact ⟨s,run,silent,waits,entry,t,unaided,reached⟩

end WakeSystem

end UsbOverNetwork
