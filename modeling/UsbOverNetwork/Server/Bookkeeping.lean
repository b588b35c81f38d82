import UsbOverNetwork.Server.ClientCalls

/-! What the device list and the manager know of each other. As long as no
client attaches a device over another one, an exported entry names a client
that holds its device, and a removed client leaves no worker behind. -/
namespace UsbOverNetwork
open Runs

def CallPc.unstarted : CallPc → Bool
  | .idle _ => true
  | .checking _ => true
  | .opening _ => true
  | .starting _ => true
  | _ => false

/-- A client with a busid has a handler, until it lets go of both. -/
structure CallThread.Handled (thread : CallThread) : Prop where
  attached : thread.pc.unstarted = true → thread.client.urbHandler = none →
    thread.client.attachedBusid = .empty
  updating : ∀ busid, thread.pc = .updating busid →
    thread.client.attachedBusid = .empty ∧ thread.client.urbHandler ≠ none
  exporting : ∀ busid, thread.pc = .exporting busid → thread.client.urbHandler ≠ none

/-- The state of a handler that a client at this point has a pointer to. Past
the cleanup there is no such handler. -/
def UrbHandler.HeldAt (handler : UrbHandler) : CallPc → Prop
  | .joining _ => True
  | .cleaning _ => handler.worker = .stopped
  | .closing _ => False
  | .unexporting => False
  | .clearing => False
  | .gone => False
  | _ => handler.running = true ∧ handler.initialized = true

namespace CallSystem

variable {server next : Server} {client after : ClientConnection} {pc onward : CallPc}
  {pointer : ClientPtr}

/-- A new client gets an id of its own, and nobody starts a handler over another. -/
def bookkept (s : CallSystem) : CallAction → Bool
  | .connect _ _ _ _ => s.threads.all (·.client.id ≠ s.server.manager.nextClientId)
  | .advance pointer _ =>
    match s.threads[pointer]? with
    | some ⟨client,.starting _⟩ => client.urbHandler.isNone
    | _ => true
  | _ => true

theorem bookkept_unhandled {s next : CallSystem} {action : CallAction} {busid : Busid}
    (bookkept : s.bookkept action = true) (acts : action.client = some pointer)
    (stepped : step action s = some next)
    (here : s.threads[pointer]? = some ⟨client,pc⟩) (starting : pc = .starting busid) :
    client.urbHandler = none := by
  subst starting
  obtain ⟨outcome,rfl⟩ := busy_advances acts stepped here (by simp)
  simpa [CallSystem.bookkept,here] using bookkept

theorem ThreadMoved.handled (moved : ThreadMoved pointer server client pc next after onward)
    (fresh : ∀ busid, pc = .starting busid → client.urbHandler = none)
    (handled : CallThread.Handled ⟨client,pc⟩) : CallThread.Handled ⟨after,onward⟩ := by
  obtain ⟨attached,updating,exporting⟩ := handled
  cases moved with
  | unstarted busid err devices same => exact ⟨fun _ _ => attached rfl (fresh busid rfl),by simp,by simp⟩
  | started busid =>
    exact ⟨by simp [CallPc.unstarted],fun _ _ => ⟨attached rfl (fresh busid rfl),by simp⟩,by simp⟩
  | updated busid => exact ⟨by simp [CallPc.unstarted],by simp,fun _ _ => (updating busid rfl).2⟩
  | exported busid now => exact ⟨fun _ none => absurd none (exporting busid rfl),by simp,by simp⟩
  | cleared => exact ⟨fun _ _ => rfl,by simp,by simp⟩
  | transferred => exact ⟨attached,by simp,by simp⟩
  | attaching => exact ⟨attached,by simp,by simp⟩
  | unattached _ empty => exact ⟨fun _ _ => empty,by simp,by simp⟩
  | unlisted => exact ⟨attached,by simp,by simp⟩
  | refused => exact ⟨attached,by simp,by simp⟩
  | checked => exact ⟨attached,by simp,by simp⟩
  | unopened => exact ⟨attached,by simp,by simp⟩
  | opened => exact ⟨attached,by simp,by simp⟩
  | _ => exact ⟨by simp [CallPc.unstarted],by simp,by simp⟩

theorem ThreadMoved.exports_kept {busid : Busid}
    (moved : ThreadMoved pointer server client pc next after onward)
    (handled : CallThread.Handled ⟨client,pc⟩) (named : busid ≠ .empty)
    (exports : CallThread.Exports ⟨client,pc⟩ busid) :
    CallThread.Exports ⟨after,onward⟩ busid ∨
      next.devices = (deviceListUnexport server.devices client.attachedBusid).2 := by
  obtain ⟨same,state,lends⟩ := exports
  cases moved with
  | unexported => exact Or.inr rfl
  | released => exact Or.inr rfl
  | updated target => exact absurd (same.symm.trans (handled.updating target rfl).1) named
  | unreleased empty => exact absurd (same.symm.trans empty) named
  | cleared => cases lends
  | freed => cases lends
  | unhandled release => exact Or.inl ⟨same,state,by cases release <;> exact lends⟩
  | unstopped release => exact Or.inl ⟨same,state,by cases release <;> exact lends⟩
  | stopped release => exact Or.inl ⟨same,state,by cases release <;> exact lends⟩
  | joined release => exact Or.inl ⟨same,state,by cases release <;> exact lends⟩
  | cleaned release => exact Or.inl ⟨same,state,by cases release <;> exact lends⟩
  | _ => exact Or.inl ⟨same,state,rfl⟩

/-- Every exported entry names a client that the device is lent to. -/
structure Recorded (s : CallSystem) : Prop where
  distinct : (s.server.devices.entries.map DeviceEntry.busid).Nodup
  named : s.server.devices.lending .empty = none
  ids : ∀ (first second : ClientPtr) (thread other : CallThread), s.threads[first]? = some thread →
    s.threads[second]? = some other → thread.client.id = other.client.id → first = second
  sound : ∀ (pointer : ClientPtr) (thread : CallThread), s.threads[pointer]? = some thread →
    thread.Sound ∧ thread.Handled
  lent : ∀ busid id, s.server.devices.lending busid = some (.exported,id) →
    ∃ (pointer : ClientPtr) (thread : CallThread), s.threads[pointer]? = some thread ∧
      thread.client.id = id ∧ thread.Exports busid

theorem ThreadMoved.busids (moved : ThreadMoved pointer server client pc next after onward) :
    next.devices.entries.map DeviceEntry.busid = server.devices.entries.map DeviceEntry.busid := by
  rcases moved.exports with ⟨same,_⟩ | ⟨_,_,_,_,_,devices⟩ | ⟨_,_,_,devices⟩
  · exact same.busids
  · rw [devices]
    exact busids_export _ _ _
  · rw [devices]
    exact busids_unexport

theorem ThreadMoved.exported_before {busid : Busid} {id : UInt32}
    (moved : ThreadMoved pointer server client pc next after onward)
    (exported : next.devices.lending busid = some (.exported,id)) :
    server.devices.lending busid = some (.exported,id) ∧
        next.devices ≠ (deviceListUnexport server.devices busid).2 ∨
      pc = .exporting busid ∧ onward = .idle .success ∧ after = client ∧ id = client.id := by
  have unexport : next.devices ≠ (deviceListUnexport server.devices busid).2 := by
    intro devices
    rw [devices,lending_unexport,if_pos rfl] at exported
    obtain ⟨_,_,hands⟩ := Option.map_eq_some_iff.mp exported
    cases hands
  rcases moved.exports with ⟨same,_⟩ | ⟨target,now,rfl,rfl,rfl,devices⟩ | ⟨_,_,_,devices⟩
  · exact Or.inl ⟨same.lending busid ▸ exported,unexport⟩
  · by_cases available : ∃ held, server.devices.lending target = some (.available,held)
    · obtain ⟨held,available⟩ := available
      rw [devices,attachExport,lending_export _ held _ _ available] at exported
      split at exported
      next same =>
        subst same
        cases exported
        exact Or.inr ⟨rfl,rfl,rfl,rfl⟩
      next _ => exact Or.inl ⟨exported,unexport⟩
    · rw [devices,attachExport,export_refused _ _ _ (not_exists.mp available)] at exported
      exact Or.inl ⟨exported,unexport⟩
  · have different : busid ≠ client.attachedBusid := by
      rintro rfl
      exact unexport devices
    rw [devices,lending_unexport,if_neg different] at exported
    exact Or.inl ⟨exported,unexport⟩

theorem thread_recorded {s : CallSystem} {owners : List ClientPtr} (recorded : s.Recorded)
    (fresh : ∀ busid, pc = .starting busid → client.urbHandler = none)
    (here : s.threads[pointer]? = some ⟨client,pc⟩)
    (moved : ThreadMoved pointer s.server client pc next after onward) :
    Recorded ⟨next,s.threads.set pointer ⟨after,onward⟩,owners⟩ where
  distinct := by
    rw [moved.busids]
    exact recorded.distinct
  named := by
    rw [lending_eq_none,moved.busids,← lending_eq_none]
    exact recorded.named
  ids := by
    intro first second thread other left right same
    rcases thread_set left with ⟨rfl,rfl⟩ | ⟨_,oldLeft⟩ <;>
      rcases thread_set right with ⟨rfl,rfl⟩ | ⟨_,old⟩
    · rfl
    · exact recorded.ids first second _ other here old (moved.id.symm.trans same)
    · exact recorded.ids first second thread _ oldLeft here (same.trans moved.id)
    · exact recorded.ids first second thread other oldLeft old same
  sound := by
    intro other thread found
    obtain ⟨sound,handled⟩ := recorded.sound pointer _ here
    rcases thread_set found with ⟨_,rfl⟩ | ⟨_,old⟩
    · exact ⟨moved.sound sound,moved.handled fresh handled⟩
    · exact recorded.sound other thread old
  lent := by
    intro busid id exported
    obtain ⟨sound,handled⟩ := recorded.sound pointer _ here
    rcases moved.exported_before exported with ⟨before,lentOut⟩ | ⟨rfl,rfl,rfl,rfl⟩
    · have named : busid ≠ .empty := by
        rintro rfl
        rw [recorded.named] at before
        cases before
      obtain ⟨holder,thread,found,same,exports⟩ := recorded.lent busid id before
      by_cases moving : holder = pointer
      · subst moving
        cases here.symm.trans found
        rcases moved.exports_kept handled named exports with kept | devices
        · exact ⟨holder,_,thread_mine here _,moved.id.trans same,kept⟩
        · exact absurd (exports.busid ▸ devices) lentOut
      · exact ⟨holder,thread,by rwa [List.getElem?_set_ne (Ne.symm moving)],same,exports⟩
    · refine ⟨pointer,_,thread_mine here _,rfl,sound.exporting busid rfl,?_,rfl⟩
      refine sound.attached.resolve_left fun empty => ?_
      have named : busid = .empty := (sound.exporting busid rfl).symm.trans empty
      have absent : next.devices.lending busid = none := by
        rw [named,lending_eq_none,moved.busids,← lending_eq_none]
        exact recorded.named
      rw [exported] at absent
      cases absent

theorem step_recorded (action : CallAction) (s next : CallSystem)
    (bookkept : s.bookkept action = true) (recorded : s.Recorded)
    (stepped : step action s = some next) : next.Recorded := by
  have moves := step_moved stepped
  obtain ⟨distinct,named,ids,sound,lent⟩ := recorded
  cases moves with
  | thread _ pointer client pc server after onward acts here moved =>
    exact thread_recorded ⟨distinct,named,ids,sound,lent⟩
      (fun busid starting => bookkept_unhandled bookkept acts stepped here starting) here moved
  | connected socket ipAddress port outcome =>
    simp only [CallSystem.bookkept,List.all_eq_true,decide_eq_true_eq] at bookkept
    refine ⟨distinct,named,?_,?_,?_⟩
    · intro first second thread other left right same
      rcases thread_append left with oldLeft | ⟨rfl,rfl⟩ <;>
        rcases thread_append right with old | ⟨rfl,rfl⟩
      · exact ids first second thread other oldLeft old same
      · exact absurd same (bookkept thread (List.mem_of_getElem? oldLeft))
      · exact absurd same.symm (bookkept other (List.mem_of_getElem? old))
      · rfl
    · intro pointer thread found
      rcases thread_append found with old | ⟨_,rfl⟩
      · exact sound pointer thread old
      · exact ⟨⟨Or.inl rfl,by simp,by simp [CallPc.detaching]⟩,fun _ _ => rfl,by simp,by simp⟩
    · intro busid id exported
      obtain ⟨pointer,thread,found,same,exports⟩ := lent busid id exported
      have bound := (List.getElem?_eq_some_iff.mp found).1
      exact ⟨pointer,thread,by rwa [List.getElem?_append_left bound],same,exports⟩
  | listed _ device devices nonempty absent entries lending =>
    refine ⟨?_,?_,ids,sound,?_⟩
    · simp only [entries,List.map_cons,List.nodup_cons]
      exact ⟨lending_eq_none.mp absent,distinct⟩
    · simp only [lending,if_neg (Ne.symm nonempty)]
      exact named
    · intro busid id exported
      simp only [lending] at exported
      split at exported
      · cases exported
      · exact lent busid id exported
  | relisted _ devices same =>
    refine ⟨?_,?_,ids,sound,?_⟩
    · simp only [same.busids]
      exact distinct
    · simp only [same.lending]
      exact named
    · intro busid id exported
      simp only [same.lending] at exported
      exact lent busid id exported
  | refused => exact ⟨distinct,named,ids,sound,lent⟩
  | worked => exact ⟨distinct,named,ids,sound,lent⟩

theorem start_recorded : start.Recorded := by
  refine ⟨by decide,rfl,?_,?_,?_⟩ <;> simp [start,DeviceList.lending,deviceListFind,Keyed.find]

/-- Every handler was started for a client, and its worker has ended unless that
client still has a pointer to it. -/
structure Served (s : CallSystem) : Prop where
  owned : s.owners.length = s.server.handlers.length
  held : ∀ (pointer : ClientPtr) (thread : CallThread) (handlerPointer : HandlerPtr),
    s.threads[pointer]? = some thread → thread.client.urbHandler = some handlerPointer →
    s.owners[handlerPointer]? = some pointer ∧
      ∃ handler, s.server.handlers[handlerPointer]? = some handler ∧ handler.HeldAt thread.pc
  ended : ∀ (handlerPointer : HandlerPtr) (handler : UrbHandler) (pointer : ClientPtr),
    s.server.handlers[handlerPointer]? = some handler → s.owners[handlerPointer]? = some pointer →
    handler.worker = .stopped ∨ ∃ thread, s.threads[pointer]? = some thread ∧
      thread.client.urbHandler = some handlerPointer

theorem urbWorkerStep_heldAt {handler : UrbHandler} (device : Option UsbDevice)
    (outcome : WorkerOutcome) (held : handler.HeldAt pc) :
    (urbWorkerStep device outcome handler).HeldAt pc := by
  have flags := urbWorkerStep_flags device outcome handler
  cases pc with
  | joining => trivial
  | cleaning => simp_all [UrbHandler.HeldAt,urbWorkerStep]
  | closing => exact held
  | unexporting => exact held
  | clearing => exact held
  | gone => exact held
  | _ => exact ⟨flags.running.trans held.1,flags.initialized.trans held.2⟩

theorem cleaned_worker (handler : UrbHandler) : handler.cleaned.worker = handler.worker := by
  simp only [UrbHandler.cleaned]
  split <;> rfl

/-- A move leaves the handlers alone, changes the one its client has a pointer
to, or starts one for a client that has none. -/
theorem ThreadMoved.handlers (moved : ThreadMoved pointer server client pc next after onward)
    (fresh : ∀ busid, pc = .starting busid → client.urbHandler = none) :
    (next.handlers = server.handlers ∧ after.urbHandler = client.urbHandler ∧
      ∀ handlerPointer handler, client.urbHandler = some handlerPointer →
        server.handlers[handlerPointer]? = some handler → handler.HeldAt pc →
        handler.HeldAt onward) ∨
    (∃ handlerPointer handler changed, client.urbHandler = some handlerPointer ∧
      server.handlers[handlerPointer]? = some handler ∧
      next.handlers = server.handlers.set handlerPointer changed ∧
      changed.worker = handler.worker ∧
      (handler.HeldAt pc → after.urbHandler = some handlerPointer ∧ changed.HeldAt onward ∨
        after.urbHandler = none ∧ handler.worker = .stopped)) ∨
    ∃ busid, client.urbHandler = none ∧ onward = .updating busid ∧
      next.handlers = server.handlers ++ [urbHandlerStarted busid] ∧
      after.urbHandler = some server.handlers.length := by
  cases moved with
  | started busid => exact Or.inr (Or.inr ⟨busid,fresh busid rfl,rfl,rfl,rfl⟩)
  | unstarted busid => exact Or.inl ⟨rfl,(fresh busid rfl).symm,fun _ _ _ _ held => held⟩
  | unhandled release none => exact Or.inl ⟨rfl,rfl,fun _ _ held => absurd held (by simp [none])⟩
  | unstopped release handlerPointer handler held found idle =>
    refine Or.inl ⟨rfl,rfl,fun other another pointed here ready => ?_⟩
    cases held.symm.trans pointed
    cases found.symm.trans here
    simp [Release.stops,ready.1,ready.2] at idle
  | stopped release handlerPointer handler held found =>
    exact Or.inr (Or.inl ⟨handlerPointer,handler,_,held,found,rfl,rfl,
      fun _ => Or.inl ⟨held,trivial⟩⟩)
  | joined release handlerPointer handler held found ended =>
    exact Or.inr (Or.inl ⟨handlerPointer,handler,_,held,found,rfl,rfl,
      fun _ => Or.inl ⟨held,ended⟩⟩)
  | cleaned release handlerPointer handler held found =>
    exact Or.inr (Or.inl ⟨handlerPointer,handler,_,held,found,rfl,cleaned_worker handler,
      fun ended => Or.inr ⟨rfl,ended⟩⟩)
  | closed => exact Or.inl ⟨rfl,rfl,fun _ _ _ _ held => held.elim⟩
  | freed => exact Or.inl ⟨rfl,rfl,fun _ _ _ _ held => held.elim⟩
  | unexported => exact Or.inl ⟨rfl,rfl,fun _ _ _ _ held => held.elim⟩
  | cleared => exact Or.inl ⟨rfl,rfl,fun _ _ _ _ held => held.elim⟩
  | _ => exact Or.inl ⟨rfl,rfl,fun _ _ _ _ held => held⟩

theorem Served.apart {s : CallSystem} (served : s.Served) {other : ClientPtr} {thread mine : CallThread}
    {handlerPointer : HandlerPtr} (here : s.threads[pointer]? = some mine)
    (held : mine.client.urbHandler = some handlerPointer) (found : s.threads[other]? = some thread)
    (also : thread.client.urbHandler = some handlerPointer) : other = pointer := by
  have mine := (served.held pointer _ _ here held).1
  have theirs := (served.held other _ _ found also).1
  exact Option.some.inj (theirs.symm.trans mine)

theorem holder_set {threads : List CallThread} {handlerPointer : HandlerPtr} {other : ClientPtr}
    (here : threads[pointer]? = some ⟨client,pc⟩)
    (kept : client.urbHandler = some handlerPointer → after.urbHandler = some handlerPointer) :
    (∃ thread, threads[other]? = some thread ∧ thread.client.urbHandler = some handlerPointer) →
    ∃ thread, (threads.set pointer ⟨after,onward⟩)[other]? = some thread ∧
      thread.client.urbHandler = some handlerPointer := by
  rintro ⟨thread,found,held⟩
  by_cases moving : other = pointer
  · subst moving
    cases here.symm.trans found
    exact ⟨_,thread_mine here _,kept held⟩
  · exact ⟨thread,by rwa [List.getElem?_set_ne (Ne.symm moving)],held⟩

theorem served_same {s : CallSystem} (served : s.Served)
    (here : s.threads[pointer]? = some ⟨client,pc⟩) (handlers : next.handlers = s.server.handlers)
    (pointed : after.urbHandler = client.urbHandler)
    (ready : ∀ handlerPointer handler, client.urbHandler = some handlerPointer →
      s.server.handlers[handlerPointer]? = some handler → handler.HeldAt pc →
      handler.HeldAt onward) :
    Served ⟨next,s.threads.set pointer ⟨after,onward⟩,s.owners⟩ where
  owned := by
    rw [handlers]
    exact served.owned
  held := by
    intro other thread handlerPointer found held
    rw [handlers]
    rcases thread_set found with ⟨rfl,rfl⟩ | ⟨_,old⟩
    · obtain ⟨owner,handler,stored,state⟩ := served.held other _ _ here (pointed ▸ held)
      exact ⟨owner,handler,stored,ready _ handler (pointed ▸ held) stored state⟩
    · exact served.held other thread handlerPointer old held
  ended := by
    intro handlerPointer handler other stored owner
    rw [handlers] at stored
    exact (served.ended handlerPointer handler other stored owner).imp_right
      (holder_set here pointed.trans)

theorem served_set {s : CallSystem} (served : s.Served) {target : HandlerPtr}
    {handler changed : UrbHandler} (here : s.threads[pointer]? = some ⟨client,pc⟩)
    (pointed : client.urbHandler = some target) (found : s.server.handlers[target]? = some handler)
    (handlers : next.handlers = s.server.handlers.set target changed)
    (worker : changed.worker = handler.worker)
    (ready : handler.HeldAt pc → after.urbHandler = some target ∧ changed.HeldAt onward ∨
      after.urbHandler = none ∧ handler.worker = .stopped) :
    Served ⟨next,s.threads.set pointer ⟨after,onward⟩,s.owners⟩ := by
  obtain ⟨mine,held,stored,state⟩ := served.held pointer _ _ here pointed
  cases found.symm.trans stored
  have changedHere : next.handlers[target]? = some changed := by
    rw [handlers,List.getElem?_set_self']
    simp [found]
  refine ⟨by rw [handlers,List.length_set]; exact served.owned,?_,?_⟩
  · intro other thread handlerPointer found also
    rcases thread_set found with ⟨rfl,rfl⟩ | ⟨different,old⟩
    · rcases ready state with ⟨again,kept⟩ | ⟨none,_⟩
      · cases again.symm.trans also
        exact ⟨mine,changed,changedHere,kept⟩
      · cases none.symm.trans also
    · have elsewhere : target ≠ handlerPointer := by
        rintro rfl
        exact different (served.apart here pointed old also)
      rw [handlers,List.getElem?_set_ne elsewhere]
      exact served.held other thread handlerPointer old also
  · intro handlerPointer another other kept owner
    by_cases same : handlerPointer = target
    · rw [same] at kept owner ⊢
      cases changedHere.symm.trans kept
      cases mine.symm.trans owner
      rcases ready state with ⟨again,_⟩ | ⟨_,stopped⟩
      · exact Or.inr ⟨_,thread_mine here _,again⟩
      · exact Or.inl (worker.trans stopped)
    · rw [handlers,List.getElem?_set_ne (Ne.symm same)] at kept
      refine (served.ended handlerPointer another other kept owner).imp_right (holder_set here ?_)
      exact fun held => absurd (Option.some.inj (held.symm.trans pointed)) same

theorem served_started {s : CallSystem} (served : s.Served) {busid : Busid}
    (here : s.threads[pointer]? = some ⟨client,pc⟩) (unpointed : client.urbHandler = none)
    (handlers : next.handlers = s.server.handlers ++ [urbHandlerStarted busid])
    (pointed : after.urbHandler = some s.server.handlers.length) :
    Served ⟨next,s.threads.set pointer ⟨after,.updating busid⟩,s.owners ++ [pointer]⟩ where
  owned := by simp [handlers,served.owned]
  held := by
    intro other thread handlerPointer found also
    rw [handlers]
    rcases thread_set found with ⟨rfl,rfl⟩ | ⟨different,old⟩
    · cases pointed.symm.trans also
      exact ⟨by simp [← served.owned],urbHandlerStarted busid,by simp,rfl,rfl⟩
    · obtain ⟨owner,handler,stored,state⟩ := served.held other thread handlerPointer old also
      exact ⟨by rwa [List.getElem?_append_left (List.getElem?_eq_some_iff.mp owner).1],handler,
        by rwa [List.getElem?_append_left (List.getElem?_eq_some_iff.mp stored).1],state⟩
  ended := by
    intro handlerPointer handler other stored owner
    rw [handlers] at stored
    rcases Nat.lt_or_ge handlerPointer s.server.handlers.length with old | new
    · rw [List.getElem?_append_left old] at stored
      rw [List.getElem?_append_left (served.owned ▸ old)] at owner
      refine (served.ended handlerPointer handler other stored owner).imp_right (holder_set here ?_)
      exact fun held => absurd held (by simp [unpointed])
    · obtain ⟨bound,_⟩ := List.getElem?_eq_some_iff.mp stored
      rw [List.length_append,List.length_singleton] at bound
      have last : handlerPointer = s.owners.length :=
        (Nat.le_antisymm (Nat.lt_succ_iff.mp bound) new).trans served.owned.symm
      rw [last,List.getElem?_append_right (le_refl _),Nat.sub_self] at owner
      cases owner
      exact Or.inr ⟨_,thread_mine here _,by rw [last,served.owned]; exact pointed⟩

theorem worker_served {s : CallSystem} (served : s.Served) {target : HandlerPtr}
    {handler : UrbHandler} (device : Option UsbDevice) (outcome : WorkerOutcome)
    (found : s.server.handlers[target]? = some handler) :
    Served {s with server := s.server.setHandler target (urbWorkerStep device outcome handler)} where
  owned := by
    simp only [Server.setHandler,List.length_set]
    exact served.owned
  held := by
    intro pointer thread handlerPointer here held
    obtain ⟨owner,before,stored,state⟩ := served.held pointer thread handlerPointer here held
    refine ⟨owner,?_⟩
    by_cases same : target = handlerPointer
    · subst same
      cases found.symm.trans stored
      refine ⟨urbWorkerStep device outcome handler,?_,?_⟩
      · simp only [Server.setHandler,List.getElem?_set_self']
        simp [found]
      · exact urbWorkerStep_heldAt device outcome state
    · exact ⟨before,by simpa only [Server.setHandler,List.getElem?_set_ne same],state⟩
  ended := by
    intro handlerPointer after pointer stored owner
    simp only [Server.setHandler] at stored
    by_cases same : target = handlerPointer
    · subst same
      rw [List.getElem?_set_self',found] at stored
      cases stored
      refine (served.ended target handler pointer found owner).imp_left fun stopped => ?_
      simp [urbWorkerStep,stopped]
    · rw [List.getElem?_set_ne same] at stored
      exact served.ended handlerPointer after pointer stored owner

theorem step_served (action : CallAction) (s next : CallSystem)
    (bookkept : s.bookkept action = true) (served : s.Served)
    (stepped : step action s = some next) : next.Served := by
  cases step_moved stepped with
  | thread _ pointer client pc server after onward acts here moved =>
    rcases moved.handlers fun busid => bookkept_unhandled bookkept acts stepped here with
      ⟨handlers,pointed,ready⟩ | ⟨target,handler,changed,pointed,found,handlers,worker,ready⟩ |
      ⟨busid,unpointed,rfl,handlers,pointed⟩
    · rw [show server.handlers.length - s.server.handlers.length = 0 by simp [handlers],
        List.replicate_zero,List.append_nil]
      exact served_same served here handlers pointed ready
    · rw [show server.handlers.length - s.server.handlers.length = 0 by simp [handlers],
        List.replicate_zero,List.append_nil]
      exact served_set served here pointed found handlers worker ready
    · rw [show server.handlers.length - s.server.handlers.length = 1 by simp [handlers],
        List.replicate_one]
      exact served_started served here unpointed handlers pointed
  | connected socket ipAddress port outcome =>
    refine ⟨served.owned,?_,?_⟩
    · intro pointer thread handlerPointer found held
      rcases thread_append found with old | ⟨_,rfl⟩
      · exact served.held pointer thread handlerPointer old held
      · cases held
    · intro handlerPointer handler pointer stored owner
      refine (served.ended handlerPointer handler pointer stored owner).imp_right ?_
      rintro ⟨thread,found,held⟩
      have bound := (List.getElem?_eq_some_iff.mp found).1
      exact ⟨thread,by rwa [List.getElem?_append_left bound],held⟩
  | worked _ target handler device outcome found => exact worker_served served device outcome found
  | refused => exact ⟨served.owned,served.held,served.ended⟩
  | listed => exact ⟨served.owned,served.held,served.ended⟩
  | relisted => exact ⟨served.owned,served.held,served.ended⟩

theorem start_served : start.Served := by
  refine ⟨rfl,?_,?_⟩ <;> simp [start]

end CallSystem

end UsbOverNetwork
