import UsbOverNetwork.Server.Startup

/-! The option to share one device only. A server started with it is, for all
who connect to it, a server on a machine that has no other device. -/
namespace UsbOverNetwork
open Runs

variable {first second : Server} {client : ClientConnection}

theorem freeClient_alike (alike : first.Alike second) (offered : Offered first client)
    (joins : Fin 4 → WorkerOutcome) :
    (freeClient first client joins).Alike (freeClient second client joins) := by
  have close {mine theirs : Server} (left : mine.Alike theirs) (busid : Busid) :
      Server.Alike {mine with devices := mine.devices.modifyDevice busid usbCloseDevice}
        {theirs with devices := theirs.devices.modifyDevice busid usbCloseDevice} :=
    left.modifyDevice usbCloseDevice_reset busid
  cases held : client.urbHandler with
  | none =>
    simp only [freeClient,held]
    cases client.device with
    | none => exact alike
    | some busid => exact close alike busid
  | some pointer =>
    have cleaned := alike.cleanup (offered pointer held) joins
    simp only [freeClient,held]
    cases client.device with
    | none => exact cleaned
    | some busid => exact close cleaned busid

theorem remove_alike (alike : first.Alike second) (offered : Offered first client) (pointer : ClientPtr)
    (joins : Fin 4 → WorkerOutcome) :
    (clientManagerRemove first pointer client joins).2.Alike
      (clientManagerRemove second pointer client joins).2 := by
  simp only [clientManagerRemove,alike.manager]
  cases first.manager.unlink pointer with
  | none => exact alike
  | some manager =>
    have unlinked : Server.Alike {first with manager} {second with manager} :=
      ⟨rfl,alike.handlers,alike.devices⟩
    simp only
    split
    · apply freeClient_alike
      · exact ⟨rfl,alike.handlers,alike.devices.unexport _⟩
      · intro held here handler found
        simp only [detachUnexport,unexport_modify]
        exact (offered held here handler found).modify (f := DeviceEntry.unexport) (fun _ => rfl) (fun _ => rfl) _
    · exact freeClient_alike unlinked offered joins

/-- Sessions on servers that differ in what they do not share, which they still
do when the sessions are over. -/
structure Cli.Hiding (cli seen : Cli) : Prop where
  alike : cli.Alike seen
  left : ∀ server other, cli = .finished server → seen = .finished other → server.Alike other

theorem finished_alike {outcomes : CliOutcomes} {turn : Turn} {cli seen : Cli} {server other : Server}
    (alike : cli.Alike seen) (stepped : Cli.step outcomes turn cli = some (.finished server))
    (again : Cli.step outcomes turn seen = some (.finished other)) : server.Alike other := by
  cases alike with
  | finished => cases turn <;> cases stepped
  | accepted before after socket ipAddress port alike =>
    cases turn with
    | session =>
      simp only [Cli.step,alike.manager] at stepped again
      rcases clientManagerAdd_cases before.manager socket ipAddress port outcomes.alloc with
        ⟨err,id,refused⟩ | ⟨pointer,_,added⟩
      · rw [refused] at stepped again
        cases stepped
        cases again
        exact ⟨rfl,alike.handlers,alike.devices⟩
      · rw [added] at stepped
        cases stepped
    | worker outcome => cases stepped
    | signal => cases stepped
  | serving s left alike offered =>
    cases turn with
    | session =>
      by_cases leaving : s.pc = .remove
      · simp only [Cli.step,Cli.sessionTurn,leaving,Option.some.injEq,Cli.finished.injEq] at stepped again
        rw [← stepped,← again]
        exact remove_alike alike offered s.pointer outcomes.removing
      · obtain ⟨_,same⟩ := Cli.sessionTurn_serving leaving stepped
        cases same
    | worker outcome =>
      obtain ⟨_,_,same⟩ := Option.map_eq_some_iff.mp stepped
      cases same
    | signal => cases stepped

theorem hiding_simulation : SessionSimulation Server.Alike Cli.Hiding where
  starts alike socket ipAddress port := ⟨.accepted _ _ _ _ _ alike,by simp⟩
  step same stepped := by
    obtain ⟨after,again,alike⟩ := Cli.step_alike _ _ _ _ same.alike stepped
    refine ⟨after,again,alike,?_⟩
    intro server other ended gone
    subst ended gone
    exact finished_alike same.alike stepped again
  sent same := same.alike.sent
  accepted same := by
    cases same.alike with
    | accepted server other socket ipAddress port alike => exact ⟨other,rfl⟩
  serving := by
    intro s seen same
    cases same.alike with
    | serving _ server alike offered =>
      exact ⟨_,rfl,fun flag => ⟨.serving {s with serverRunning := flag} server alike offered,by simp⟩⟩
  finished same := by
    obtain ⟨alike,left⟩ := same
    cases alike with
    | finished server other => exact ⟨other,rfl,left _ _ rfl rfl⟩

def DeviceList.part (list : DeviceList) (busid : Busid) : DeviceList :=
  ⟨list.entries.filter (·.busid = busid)⟩

theorem deviceListAdd_part (list : DeviceList) (device : UsbDevice) (alloc : Bool) (busid : Busid) :
    (deviceListAdd list device alloc).2.part busid =
      if device.busid = busid then (deviceListAdd (list.part busid) device alloc).2 else list.part busid := by
  have modified := Keyed.filter_modify_key DeviceEntry.busid device.busid busid
    (f := fun entry => {entry with device}) (fun _ _ => rfl) list.entries
  simp only [deviceListAdd]
  by_cases same : device.busid = busid
  · subst same
    rw [if_pos rfl] at modified ⊢
    have found : deviceListFind (list.part device.busid) device.busid = deviceListFind list device.busid :=
      Keyed.find_key_filter DeviceEntry.busid device.busid list.entries
    rw [found]
    cases deviceListFind list device.busid with
    | some entry => exact congrArg DeviceList.mk modified
    | none =>
      cases alloc with
      | false => rfl
      | true => simp [DeviceList.part,DeviceEntry.busid,createEntry]
  · rw [if_neg (Ne.symm same)] at modified
    rw [if_neg same]
    cases deviceListFind list device.busid with
    | some entry => exact congrArg DeviceList.mk modified
    | none =>
      cases alloc with
      | false => rfl
      | true => simp [DeviceList.part,DeviceEntry.busid,createEntry,same]

theorem callbacks_shift (allocs : Nat → Bool) (nodes : List DeviceNode) (count : Nat) (list : DeviceList) :
    (nodes.foldl (fun data node => enumCallback allocs node.device data) (count+1,list)).2 =
      (nodes.foldl (fun data node => enumCallback (fun i => allocs (i+1)) node.device data) (count,list)).2 := by
  induction nodes generalizing count list with
  | nil => rfl
  | cons node rest ih => exact ih _ _

theorem callbacks_part (allocs : Nat → Bool) (busid : Busid) (nodes : List DeviceNode) (count : Nat)
    (list : DeviceList) : ∃ fewer : Nat → Bool,
    (nodes.foldl (fun data node => enumCallback allocs node.device data) (count,list)).2.part busid =
      ((nodes.filter fun node => node.device.busid = busid).foldl
        (fun data node => enumCallback fewer node.device data) (0,list.part busid)).2 := by
  induction nodes generalizing count list with
  | nil => exact ⟨allocs,rfl⟩
  | cons node rest ih =>
    obtain ⟨fewer,same⟩ := ih (count+1) (deviceListAdd list node.device (allocs count)).2
    rw [deviceListAdd_part] at same
    by_cases here : node.device.busid = busid
    · rw [if_pos here] at same
      let numbered : Nat → Bool := Nat.rec (allocs count) fun i _ => fewer i
      refine ⟨numbered,same.trans ?_⟩
      rw [List.filter_cons_of_pos (by simpa using here)]
      exact (callbacks_shift numbered _ 0 _).symm
    · rw [if_neg here] at same
      refine ⟨fewer,same.trans ?_⟩
      rw [List.filter_cons_of_neg (by simpa using here)]

theorem rebuilt_part (nodes : List DeviceNode) (allocs : Nat → Bool) (busid : Busid) :
    ∃ fewer, (rebuilt nodes allocs).part busid =
      rebuilt (nodes.filter fun node => node.device.busid = busid) fewer := by
  obtain ⟨fewer,same⟩ := callbacks_part allocs busid (nodes.filter DeviceNode.reported) 0 ⟨[]⟩
  refine ⟨fewer,same.trans ?_⟩
  rw [rebuilt,List.filter_filter,List.filter_filter]
  simp only [Bool.and_comm]
  rfl

/-- The server as it starts on a machine where only the device of the filter is found. -/
def aloneServer (options : ServerOptions) (outcome : StartOutcome) : Server :=
  {startServer options outcome with
    devices := ⟨(startDevices options outcome).entries.filter (·.busid = options.deviceFilter)⟩}

section Filtered

variable {options : ServerOptions} {outcome : StartOutcome}

theorem startDevices_part (busid : Busid) : (startDevices options outcome).part busid =
    ⟨((DeviceListRecord.refresh ⟨⟨[]⟩,0,true⟩ true outcome.nodes outcome.allocs outcome.now).2.list.part
      busid).entries.map fun entry => {entry with isShared := options.shares entry}⟩ := by
  rw [DeviceList.part,startDevices,applyFilter_entries refreshed_enumerated.distinct,List.filter_map]
  rfl

theorem aloneServer_start (options : ServerOptions) (outcome : StartOutcome) : ∃ allocs,
    aloneServer options outcome = startServer options {outcome with
      nodes := outcome.nodes.map (List.filter fun node => node.device.busid = options.deviceFilter)
      allocs} := by
  have listed (nodes : Option (List DeviceNode)) (allocs : Nat → Bool) :
      (DeviceListRecord.refresh ⟨⟨[]⟩,0,true⟩ true nodes allocs outcome.now).2.list =
        nodes.elim ⟨[]⟩ (rebuilt · allocs) := by
    rw [DeviceListRecord.refresh_list _ rfl]
    cases nodes <;> rfl
  obtain ⟨allocs,same⟩ : ∃ allocs, (outcome.nodes.elim ⟨[]⟩ (rebuilt · outcome.allocs)).part
      options.deviceFilter =
      (outcome.nodes.map (List.filter fun node => node.device.busid = options.deviceFilter)).elim ⟨[]⟩
        (rebuilt · allocs) := by
    cases outcome.nodes with
    | none => exact ⟨outcome.allocs,rfl⟩
    | some nodes => exact rebuilt_part nodes outcome.allocs options.deviceFilter
  refine ⟨allocs,congrArg (fun devices => (⟨⟨[],0,1⟩,devices,[]⟩ : Server)) ?_⟩
  refine (startDevices_part options.deviceFilter).trans ?_
  rw [startDevices]
  refine congrArg DeviceList.mk (Eq.symm ?_)
  rw [applyFilter_entries refreshed_enumerated.distinct]
  dsimp only
  rw [listed,listed,same]

theorem startDevices_shared (filtered : options.deviceFilter.chars ≠ []) {entry : DeviceEntry}
    (member : entry ∈ (startDevices options outcome).entries) :
    entry.isShared = decide (entry.busid = options.deviceFilter) := by
  rw [startDevices,applyFilter_entries refreshed_enumerated.distinct] at member
  obtain ⟨old,_,rfl⟩ := List.mem_map.mp member
  simp only [ServerOptions.shares,if_pos filtered]
  rfl

theorem aloneServer_alike (filtered : options.deviceFilter.chars ≠ []) :
    (startServer options outcome).Alike (aloneServer options outcome) := by
  have distinct := (startDevices_enumerated options outcome).distinct
  refine ⟨rfl,rfl,?_,distinct,distinct.sublist (List.filter_sublist.map _)⟩
  simp only [aloneServer,startServer]
  rw [List.filter_filter]
  apply List.filter_congr
  intro entry member
  rw [startDevices_shared filtered member,Bool.and_self]

theorem aloneServer_enumerated : (aloneServer options outcome).devices.Enumerated := by
  obtain ⟨distinct,named,idle⟩ := startDevices_enumerated options outcome
  refine ⟨distinct.sublist (List.filter_sublist.map _),?_,?_⟩
  · exact fun entry member => named entry (List.mem_filter.mp member).1
  · exact fun entry member => idle entry (List.mem_filter.mp member).1

theorem Server.Alike.symm (alike : first.Alike second) : second.Alike first :=
  ⟨alike.manager.symm,alike.handlers.symm,alike.devices.shared.symm,alike.devices.distinctOther,
    alike.devices.distinct⟩

theorem session_busids {base : Server} {ending : StreamEnd} {s : CliSession} (serves : s.Serves base ending)
    {busid : Busid} (listed : busid ∈ s.server.devices.entries.map DeviceEntry.busid) :
    busid ∈ base.devices.entries.map DeviceEntry.busid := by
  have skeleton : s.server.devices.skeleton = base.devices.skeleton := by
    rcases serves.attachment with ⟨free,_⟩ | ⟨⟨_,_,_,holding⟩,_⟩
    · exact free.devices.skeleton
    · exact holding.devices.skeleton
  rwa [skeleton_busids,← skeleton,← skeleton_busids]

/-- What a session for URBs serves is the device of the filter, when the server
has no other. -/
theorem alone_serves {alone : MainLoop} {token : Option Token}
    (clean : MainLoop.Clean (aloneServer options outcome) token alone) {connection : Nat}
    {session : CliSession} (phase : alone.phase = .session connection (.serving session)) {busid : Busid}
    (offers : session.server.devices.Offers busid) : busid = options.deviceFilter := by
  obtain ⟨ending,serves⟩ := clean.session connection _ phase
  obtain ⟨entry,found,_⟩ := offers
  have here : busid ∈ session.server.devices.entries.map DeviceEntry.busid :=
    List.mem_map.mpr ⟨entry,Keyed.find_mem _ found,find_busid found⟩
  have before := session_busids serves here
  rw [skeleton_busids,clean.leaves.devices.skeleton,← skeleton_busids] at before
  obtain ⟨entry,listed,rfl⟩ := List.mem_map.mp before
  exact of_decide_eq_true (List.mem_filter.mp listed).2

/-- To share one device only is to have no other: whatever else the server has
found, all who connect are answered, byte for byte, as by a server that found
only that device, and no URB is carried out on any other. -/
theorem device_filter_hides (filtered : options.deviceFilter.chars ≠ []) (actions : List MainAction) :
    (∀ final, Run MainLoop.step (.start (startServer options outcome) options.authToken outcome.env)
        actions final →
      (∃ other, Run MainLoop.step (.start (aloneServer options outcome) options.authToken outcome.env)
          actions other ∧ other.phase.sent = final.phase.sent) ∧
      ∀ connection session urb, final.phase = .session connection (.serving session) →
        session.urbSession = some urb → urb.handler.device = options.deviceFilter) ∧
    ∀ other, Run MainLoop.step (.start (aloneServer options outcome) options.authToken outcome.env)
        actions other →
      ∃ final, Run MainLoop.step (.start (startServer options outcome) options.authToken outcome.env)
          actions final ∧ final.phase.sent = other.phase.sent := by
  have alike : (startServer options outcome).Alike (aloneServer options outcome) := aloneServer_alike filtered
  constructor
  · intro final run
    have starts : MainLoop.Related Server.Alike Cli.Hiding
        (.start (startServer options outcome) options.authToken outcome.env)
        (.start (aloneServer options outcome) options.authToken outcome.env) :=
      ⟨alike,rfl,rfl,.accepting⟩
    obtain ⟨other,again,last⟩ := run.lockstep _ (MainLoop.step_related hiding_simulation) starts
    refine ⟨⟨other,again,last.sent hiding_simulation⟩,?_⟩
    intro connection session urb phase view
    have clean : MainLoop.Clean (aloneServer options outcome)
        (some (authGetToken options.authToken outcome.env)) other := by
      apply again.invariant _ (MainLoop.step_clean aloneServer_enumerated)
      exact ⟨.refl aloneServer_enumerated,rfl,by simp [MainLoop.start]⟩
    have phases := last.phase
    rw [phase] at phases
    cases there : other.phase with
    | session theirs seen =>
      rw [there] at phases
      cases phases with
      | session _ _ _ _ same =>
        cases same.alike with
        | serving _ server alike offered =>
          simp only [CliSession.urbSession] at view
          split at view
          next _ => cases view
          next pointer held =>
            obtain ⟨handler,stored,rfl⟩ := Option.map_eq_some_iff.mp view
            obtain ⟨entry,found,shared⟩ := offered pointer held handler stored
            exact alone_serves clean there ⟨entry,alike.devices.find found shared,shared⟩
    | _ =>
      rw [there] at phases
      cases phases
  · intro other run
    apply @MainLoop.related_run _ _ hiding_simulation
      (.start (aloneServer options outcome) options.authToken outcome.env)
      (.start (startServer options outcome) options.authToken outcome.env) _ _ _ run
    exact ⟨alike.symm,rfl,rfl,.accepting⟩

end Filtered

def oneOfTwo : ServerOptions := {ServerOptions.default with deviceFilter := (adapter "C8").device.busid}

def twoAdapters : StartOutcome := {adapterStart with nodes := some [adapter "A1",adapter "C8"]}

theorem device_filter_hides_adapter : ∃ final other connection session urb,
    Run MainLoop.step (.start (startServer oneOfTwo twoAdapters) none none) (adapterSession.take 5) final ∧
    Run MainLoop.step (.start (aloneServer oneOfTwo twoAdapters) none none) (adapterSession.take 5) other ∧
    (startServer oneOfTwo twoAdapters).devices.entries.length = 2 ∧
    (aloneServer oneOfTwo twoAdapters).devices.entries.length = 1 ∧
    final.phase = .session connection (.serving session) ∧ session.urbSession = some urb ∧
    other.phase.sent = final.phase.sent ∧ urb.handler.device = (adapter "C8").device.busid := by
  obtain ⟨final,run,checked⟩ := run_of_check MainLoop.step (adapterSession.take 5)
    (.start (startServer oneOfTwo twoAdapters) none none)
    (fun s => s.phase.forwarding) (by decide +kernel)
  cases phase : final.phase with
  | session connection cli =>
    cases cli with
    | serving session =>
      simp only [phase,MainPhase.forwarding,Option.isSome_iff_exists] at checked
      obtain ⟨urb,view⟩ := checked
      obtain ⟨⟨other,again,same⟩,served⟩ := (@device_filter_hides oneOfTwo twoAdapters (by decide)
        _).1 final run
      exact ⟨final,other,connection,session,urb,run,again,by decide +kernel,by decide +kernel,phase,view,same,
        served connection session urb phase view⟩
    | _ => simp [phase,MainPhase.forwarding] at checked
  | _ => simp [phase,MainPhase.forwarding] at checked

end UsbOverNetwork
