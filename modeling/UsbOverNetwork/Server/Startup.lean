import UsbOverNetwork.Library.Ledger
import UsbOverNetwork.Library.Options
import UsbOverNetwork.Server.DeviceListCalls
import UsbOverNetwork.Server.EarlierClients
import UsbOverNetwork.Server.Refresh

/-! The command line server as a program: its command line, what it sets up
before its main loop and what it takes down behind it. -/
namespace UsbOverNetwork
open Runs Options

/-- `strcmp(word, name) == 0` -/
def Token.is (word : Token) (name : String) : Bool := word.chars = Text.ascii name

@[ext]
structure ServerOptions where
  port : UInt16
  bindAddress : CString 63
  deviceFilter : Busid
  authToken : Option Token
  verbose : Bool
  listOnly : Bool
deriving DecidableEq

def ServerOptions.default : ServerOptions where
  port := 3240
  bindAddress := .ofBuffer (Text.ascii "0.0.0.0")
  deviceFilter := .empty
  authToken := none
  verbose := false
  listOnly := false

inductive ServerOption
  | help
  | list
  | verbose
  | port
  | bind
  | device
  | authToken
deriving DecidableEq

def serverOption (word : Token) : Option ServerOption :=
  if word.is "-h" || word.is "--help" then some .help
  else if word.is "-l" || word.is "--list" then some .list
  else if word.is "-v" || word.is "--verbose" then some .verbose
  else if word.is "-p" || word.is "--port" then some .port
  else if word.is "-b" || word.is "--bind" then some .bind
  else if word.is "-d" || word.is "--device" then some .device
  else if word.is "-k" || word.is "--auth-token" then some .authToken
  else none

/-- `(uint16_t)atoi(value)` -/
def portOf (value : Token) : UInt16 := UInt16.ofInt (Text.atoi value.chars)

/-- Help is no option that is carried out: the usage is printed and that is all. -/
def ServerOption.action : ServerOption → Option (Action Token ServerOptions)
  | .help => none
  | .list => some (.flag fun options => {options with listOnly := true})
  | .verbose => some (.flag fun options => {options with verbose := true})
  | .port => some (.valued fun value options => {options with port := portOf value})
  | .bind => some (.valued fun value options => {options with bindAddress := .ofBuffer value.chars})
  | .device => some (.valued fun value options => {options with deviceFilter := .ofBuffer value.chars})
  | .authToken => some (.valued fun value options => {options with authToken := some value})

/-- `parse_args` on the words behind the program's name; `none` when it returns -1. -/
def serverParseArgs (argv : List Token) : Option ServerOptions :=
  (scan (fun word => (serverOption word).bind ServerOption.action) (fun _ => true) argv
    ServerOptions.default).map Prod.fst

def ServerUse : Use Token → Prop
  | .alone word => serverOption word = some .list ∨ serverOption word = some .verbose
  | .followed word _ =>
    ∃ option ∈ [ServerOption.port,.bind,.device,.authToken], serverOption word = some option

def ServerOption.names (option : ServerOption) (word : Token) : Bool := serverOption word = some option

/-- The settings that a sequence of options describes, in whatever order they come. -/
def ServerOptions.described (uses : List (Use Token)) : ServerOptions where
  port := (Use.last? (ServerOption.names .port) uses).elim 3240 portOf
  bindAddress := (Use.last? (ServerOption.names .bind) uses).elim (.ofBuffer (Text.ascii "0.0.0.0"))
    fun value => .ofBuffer value.chars
  deviceFilter := (Use.last? (ServerOption.names .device) uses).elim .empty
    fun value => .ofBuffer value.chars
  authToken := (Use.last? (ServerOption.names .authToken) uses).elim none some
  verbose := uses.any fun use => ServerOption.names .verbose use.word
  listOnly := uses.any fun use => ServerOption.names .list use.word

section Arguments

abbrev serverTable (word : Token) : Option (Action Token ServerOptions) :=
  (serverOption word).bind ServerOption.action

def ServerOptions.after (options : ServerOptions) (use : Use Token) : ServerOptions where
  port := (use.value? (ServerOption.names .port)).elim options.port portOf
  bindAddress := (use.value? (ServerOption.names .bind)).elim options.bindAddress
    fun value => .ofBuffer value.chars
  deviceFilter := (use.value? (ServerOption.names .device)).elim options.deviceFilter
    fun value => .ofBuffer value.chars
  authToken := (use.value? (ServerOption.names .authToken)).elim options.authToken some
  verbose := options.verbose || ServerOption.names .verbose use.word
  listOnly := options.listOnly || ServerOption.names .list use.word

theorem apply_server (use : Use Token) (options next : ServerOptions) :
    Use.apply serverTable options use = some next ↔ ServerUse use ∧ next = options.after use := by
  obtain ⟨known,named⟩ : ∃ known, serverOption use.word = known := ⟨_,rfl⟩
  cases use with
  | alone word =>
    rw [Use.word] at named
    simp only [Use.apply,serverTable,ServerUse,ServerOptions.after,Use.value?,Use.word,
      ServerOption.names,named]
    cases known with
    | none => simp
    | some option => cases option <;> simp [ServerOption.action,eq_comm]
  | followed word value =>
    rw [Use.word] at named
    simp only [Use.apply,serverTable,ServerUse,ServerOptions.after,Use.value?,Use.word,
      ServerOption.names,named]
    cases known with
    | none => simp
    | some option => cases option <;> simp [ServerOption.action,eq_comm]

theorem server_described (uses : List (Use Token)) :
    uses.foldl ServerOptions.after .default = .described uses := by
  apply ServerOptions.ext
  · exact foldl_last .after ServerOptions.port _ portOf (fun _ _ => rfl) uses _
  · exact foldl_last .after ServerOptions.bindAddress _ (fun value => .ofBuffer value.chars) (fun _ _ => rfl) uses _
  · exact foldl_last .after ServerOptions.deviceFilter _ (fun value => .ofBuffer value.chars) (fun _ _ => rfl) uses _
  · exact foldl_last .after ServerOptions.authToken _ some (fun _ _ => rfl) uses _
  · exact (foldl_switch .after ServerOptions.verbose _ (fun _ _ => rfl) uses _).trans (Bool.false_or _)
  · exact (foldl_switch .after ServerOptions.listOnly _ (fun _ _ => rfl) uses _).trans (Bool.false_or _)

/-- The server accepts the command lines of its usage text, and nothing else:
options in any order, each with its value if it takes one. Of several values
for one option the last one counts. -/
theorem server_parse_args_iff (argv : List Token) (options : ServerOptions) :
    serverParseArgs argv = some options ↔
      ∃ uses : List (Use Token), argv = uses.flatMap Use.words ∧ (∀ use ∈ uses, ServerUse use) ∧
        options = .described uses := by
  simp only [serverParseArgs,scan_all_iff,applyAll_iff apply_server,server_described]

end Arguments

inductive ServerResource
  | log
  | winsock
  | usbHost
  | deviceList
  | clientManager
  | listener
  | connection (number : Nat)
deriving DecidableEq

abbrev ServerLog := List (Ledger.Entry ServerResource)

structure StartOutcome where
  logMutex : Bool
  winsock : Bool
  listMutex : Bool
  nodes : Option (List DeviceNode)
  allocs : Nat → Bool
  now : Nat → UInt64
  managerMutex : Bool
  socket : Bool
  bound : Bool
  listens : Bool
  env : Option Token

/-- `tcp_server_create`: whether there is a socket, and what was done to sockets. -/
def tcpServerCreate (outcome : StartOutcome) : Bool × ServerLog :=
  if !outcome.socket then (false,[])
  else if !outcome.bound then (false,[.obtained .listener,.released .listener])
  else if !outcome.listens then (false,[.obtained .listener,.released .listener])
  else (true,[.obtained .listener])

inductive StartError
  | mutexInit
  | networkInit
  | socketCreate
deriving DecidableEq

/-- The filter is applied to a list that was just enumerated; its result is not
looked at, so that a busid nobody has leaves nothing shared. -/
def applyFilter (options : ServerOptions) (devices : DeviceListRecord) : DeviceListRecord :=
  if options.deviceFilter.chars ≠ [] then
    (devices.unshareAll.setShared (some (.ofCString options.deviceFilter)) true).2
  else devices

/-- The server that `server_init` leaves, or its error, with all that was
obtained and given back on the way. An enumeration that fails is only logged. -/
def serverInit (options : ServerOptions) (outcome : StartOutcome) :
    Except StartError MainLoop × ServerLog :=
  if !outcome.logMutex then (.error .mutexInit,[])
  else if !outcome.winsock then (.error .networkInit,[.obtained .log])
  else
    let begun : ServerLog := [.obtained .log,.obtained .winsock,.obtained .usbHost]
    match DeviceListRecord.init outcome.listMutex with
    | (.success,devices) =>
      let devices := (devices.refresh true outcome.nodes outcome.allocs outcome.now).2
      let devices := applyFilter options devices
      let begun := begun ++ [.obtained .deviceList]
      if !outcome.managerMutex then
        (.error .mutexInit,begun ++ [.released .deviceList,.released .usbHost,.released .winsock])
      else
        let begun := begun ++ [.obtained .clientManager]
        match tcpServerCreate outcome with
        | (true,calls) =>
          (.ok (.start ⟨⟨[],0,1⟩,devices.list,[]⟩ options.authToken outcome.env),begun ++ calls)
        | (false,calls) =>
          (.error .socketCreate,begun ++ calls ++
            [.released .clientManager,.released .deviceList,.released .usbHost,.released .winsock])
    | (_,_) => (.error .mutexInit,begun ++ [.released .usbHost,.released .winsock])

namespace MainLoop

def socketCalls : MainAction → MainLoop → ServerLog
  | .accept _ _ _,s => [.obtained (.connection s.connections)]
  | .authenticate waits,s =>
    match s.phase,s.authToken.filter (·.chars ≠ []) with
    | .accepted connection socket _ _,some token =>
      if (authServerHandshake (some token) waits socket).1 = .success then []
      else [.released (.connection connection)]
    | _,_ => []
  | .session outcomes,s =>
    match s.phase with
    | .session connection (.accepted server socket ipAddress port) =>
      match (clientManagerAdd server.manager socket ipAddress port outcomes.alloc).1 with
      | .error _ => [.released (.connection connection)]
      | .ok _ => []
    | .session connection (.serving session) =>
      match session.pc,session.server.manager.unlink session.pointer with
      -- `free_client` closes the socket of a client that was on the list
      | .remove,some _ => [.released (.connection connection)]
      | _,_ => []
    | _ => []
  | _,_ => []

def logging : MainAction → Noted MainLoop ServerLog → Option (Noted MainLoop ServerLog) :=
  noting step fun action s _ log => log ++ s.socketCalls action

end MainLoop

/-- `server_cleanup`. The clients that are still listed are removed first, and
`socketOf` tells what their sockets are. -/
def serverCleanup (s : MainLoop) (socketOf : ClientPtr → ServerResource) : ServerLog :=
  s.server.manager.clients.map (fun client => .released (socketOf client)) ++
    [.released .listener,.released .clientManager,.released .deviceList,.released .usbHost,
      .released .winsock,.released .log]

section Listing

variable {nodes : List DeviceNode} {allocs : Nat → Bool}

theorem plugged_callbacks (nodes : List DeviceNode) (data : Nat × DeviceList)
    (plugged : ∀ entry ∈ data.2.entries, ∃ node : DeviceNode, entry = createEntry node.device) :
    ∀ entry ∈ (nodes.foldl (fun data node => enumCallback allocs node.device data) data).2.entries,
      ∃ node : DeviceNode, entry = createEntry node.device := by
  induction nodes generalizing data with
  | nil => exact plugged
  | cons node nodes ih =>
    apply ih
    intro entry member
    simp only [enumCallback,deviceListAdd] at member
    split at member
    next =>
      rcases Keyed.mem_modify _ _ _ _ member with old | ⟨old,found,rfl⟩
      · exact plugged entry old
      · obtain ⟨other,rfl⟩ := plugged old (Keyed.find_mem _ found)
        exact ⟨node,rfl⟩
    next =>
      split at member
      next => exact plugged entry member
      next =>
        rcases List.mem_cons.mp member with rfl | old
        · exact ⟨node,rfl⟩
        · exact plugged entry old

theorem createEntry_idle (node : DeviceNode) : (createEntry node.device).Idle :=
  ⟨⟨rfl,rfl,rfl,rfl,rfl⟩,by simp [createEntry],rfl,rfl,rfl⟩

theorem rebuilt_enumerated : (rebuilt nodes allocs).Enumerated := by
  have plugged : ∀ entry ∈ (rebuilt nodes allocs).entries, ∃ node : DeviceNode,
      entry = createEntry node.device := plugged_callbacks _ _ (by simp)
  refine ⟨rebuilt_enumerates.distinct,?_,?_⟩
  · intro entry member
    obtain ⟨node,rfl⟩ := plugged entry member
    exact parseBusidFromPath_named node.instanceId
  · intro entry member
    obtain ⟨node,rfl⟩ := plugged entry member
    exact createEntry_idle node

end Listing

def startDevices (options : ServerOptions) (outcome : StartOutcome) : DeviceList :=
  (applyFilter options
    (DeviceListRecord.refresh ⟨⟨[]⟩,0,true⟩ true outcome.nodes outcome.allocs outcome.now).2).list

def startServer (options : ServerOptions) (outcome : StartOutcome) : Server :=
  ⟨⟨[],0,1⟩,startDevices options outcome,[]⟩

def standing : Multiset ServerResource :=
  {.listener,.clientManager,.deviceList,.usbHost,.winsock,.log}

section Starting

variable {options : ServerOptions} {outcome : StartOutcome}

theorem refreshed_enumerated :
    (DeviceListRecord.refresh ⟨⟨[]⟩,0,true⟩ true outcome.nodes outcome.allocs
      outcome.now).2.list.Enumerated := by
  rw [DeviceListRecord.refresh_list _ rfl]
  cases outcome.nodes with
  | none =>
    have emptied : (deviceListRefresh true ⟨[]⟩ none outcome.allocs outcome.now).2 = ⟨[]⟩ := rfl
    rw [emptied]
    exact ⟨List.nodup_nil,by simp,by simp⟩
  | some nodes => exact rebuilt_enumerated

def ServerOptions.shares (options : ServerOptions) (entry : DeviceEntry) : Bool :=
  if options.deviceFilter.chars ≠ [] then entry.busid = options.deviceFilter else entry.isShared

theorem applyFilter_entries {s : DeviceListRecord} (distinct : (s.list.entries.map DeviceEntry.busid).Nodup) :
    (applyFilter options s).list.entries =
      s.list.entries.map fun entry => {entry with isShared := options.shares entry} := by
  have busid (f : DeviceEntry → Bool) (entry : DeviceEntry) :
      DeviceEntry.busid {entry with isShared := f entry} = entry.busid := rfl
  by_cases none : options.deviceFilter.chars = []
  · simp [applyFilter,ServerOptions.shares,none]
  · have hidden : (s.unshareAll.list.entries.map DeviceEntry.busid).Nodup := by
      simpa [DeviceListRecord.unshareAll,Function.comp_def,busid fun _ => false] using distinct
    have one : ((s.unshareAll.setShared (some (.ofCString options.deviceFilter)) true).2).list =
        s.unshareAll.list.modify options.deviceFilter fun entry => {entry with isShared := true} := by
      rw [DeviceListRecord.setShared,DeviceListRecord.named_ofCString,DeviceListRecord.changeEntry]
      split
      next absent =>
        rw [DeviceList.modify,Keyed.modify_absent _ _ _ _ absent]
      next => rfl
    rw [applyFilter,if_pos none,one,DeviceList.modify,Keyed.modify_eq_map _ hidden]
    simp only [DeviceListRecord.unshareAll,List.map_map,ServerOptions.shares,if_pos none]
    apply List.map_congr_left
    intro entry _
    simp only [Function.comp_apply,busid fun _ => false]
    by_cases same : entry.busid = options.deviceFilter
    · simp only [same,if_true,decide_true]
    · simp only [same,if_false,decide_false]

theorem startDevices_enumerated (options : ServerOptions) (outcome : StartOutcome) :
    (startDevices options outcome).Enumerated := by
  obtain ⟨distinct,named,idle⟩ := @refreshed_enumerated outcome
  have entries := @applyFilter_entries options _ distinct
  refine ⟨?_,?_,?_⟩
  · rw [startDevices,entries,List.map_map]
    exact distinct
  · rw [startDevices,entries,List.forall_mem_map]
    exact named
  · rw [startDevices,entries,List.forall_mem_map]
    intro entry member
    have was := idle entry member
    exact ⟨was.closed,was.unexported,was.clientId,was.clientIp,was.exportTime⟩

/-- Either the start fails and gives back all but the log, or the program
stands ready with what it needs. -/
theorem serverInit_cases (options : ServerOptions) (outcome : StartOutcome) :
    (∃ err, (serverInit options outcome).1 = .error err ∧
      Ledger.held (serverInit options outcome).2 0 = some (if outcome.logMutex then {.log} else 0)) ∨
    (serverInit options outcome).1 =
      .ok (.start (startServer options outcome) options.authToken outcome.env) ∧
      Ledger.held (serverInit options outcome).2 0 = some standing := by
  obtain ⟨logMutex,winsock,listMutex,nodes,allocs,now,managerMutex,socket,bound,listens,env⟩ := outcome
  cases logMutex with
  | false => exact Or.inl ⟨_,rfl,rfl⟩
  | true =>
    cases winsock with
    | false => exact Or.inl ⟨_,rfl,rfl⟩
    | true =>
      cases listMutex with
      | false => exact Or.inl ⟨_,rfl,rfl⟩
      | true =>
        cases managerMutex with
        | false => exact Or.inl ⟨_,rfl,rfl⟩
        | true =>
          cases socket <;> cases bound <;> cases listens
          all_goals first | exact Or.inl ⟨_,rfl,rfl⟩ | exact Or.inr ⟨rfl,rfl⟩

end Starting

theorem Cli.sessionTurn_serving {outcomes : CliOutcomes} {s : CliSession} {next : Cli}
    (staying : s.pc ≠ .remove) (stepped : Cli.sessionTurn outcomes s = some next) :
    ∃ session, next = .serving session := by
  have urb {turned : Option CliSession} (same : turned.map Cli.serving = some next) :
      ∃ session, next = .serving session := by
    obtain ⟨session,_,rfl⟩ := Option.map_eq_some_iff.mp same
    exact ⟨session,rfl⟩
  unfold Cli.sessionTurn at stepped
  cases pc : s.pc with
  | remove => exact absurd pc staying
  | detach =>
    simp only [pc] at stepped
    exact ⟨_,(Option.some.inj stepped).symm⟩
  | urb inner =>
    simp only [pc] at stepped
    exact urb stepped
  | loop =>
    simp only [pc] at stepped
    split at stepped
    next _ => exact urb stepped
    next _ =>
      split at stepped
      next _ =>
        split at stepped
        next _ => cases stepped
        next _ => exact ⟨_,(Option.some.inj stepped).symm⟩
      next _ => exact ⟨_,(Option.some.inj stepped).symm⟩
    next _ =>
      split at stepped
      next _ => exact ⟨_,(Option.some.inj stepped).symm⟩
      next _ => exact ⟨_,(Option.some.inj stepped).symm⟩
    next _ => exact ⟨_,(Option.some.inj stepped).symm⟩

namespace MainLoop

def connectionOf (s : MainLoop) : Multiset ServerResource :=
  match s.phase with
  | .accepted connection _ _ _ => {.connection connection}
  | .session connection _ => {.connection connection}
  | _ => 0

theorem session_calls {base : Server} {ending : StreamEnd} {s : MainLoop} {connection : Nat} {cli next : Cli}
    {outcomes : CliOutcomes} (phase : s.phase = .session connection cli) (inv : cli.Inv base ending)
    (stepped : Cli.step outcomes .session cli = some next) :
    (∃ server, next = .finished server) ∧
        s.socketCalls (.session outcomes) = [.released (.connection connection)] ∨
      (∀ server, next ≠ .finished server) ∧ s.socketCalls (.session outcomes) = [] := by
  cases cli with
  | finished server => cases stepped
  | accepted server socket ipAddress port =>
    simp only [socketCalls,phase]
    rcases clientManagerAdd_cases server.manager socket ipAddress port outcomes.alloc with
      ⟨err,id,refused⟩ | ⟨pointer,_,added⟩
    · simp only [Cli.step,refused,Option.some.injEq] at stepped ⊢
      exact Or.inl ⟨⟨_,stepped.symm⟩,trivial⟩
    · simp only [Cli.step,added,Option.some.injEq] at stepped ⊢
      exact Or.inr ⟨by simp [← stepped],trivial⟩
  | serving session =>
    have serves : session.Serves base ending := inv
    have listed : session.server.manager.unlink session.pointer = some {session.server.manager with
        clients := base.manager.clients
        clientCount := base.manager.clientCount} := by
      simp [ClientManager.unlink,serves.clients,serves.count]
    simp only [socketCalls,phase,listed]
    by_cases leaving : session.pc = .remove
    · simp only [Cli.step,Cli.sessionTurn,leaving,Option.some.injEq] at stepped ⊢
      exact Or.inl ⟨⟨_,stepped.symm⟩,trivial⟩
    · obtain ⟨left,rfl⟩ := Cli.sessionTurn_serving leaving stepped
      refine Or.inr ⟨by simp,?_⟩
      split
      next gone _ => exact absurd gone leaving
      next => rfl

structure Accounted (base : Server) (token : Option Token) (s : Noted MainLoop ServerLog) : Prop where
  clean : Clean base token s.state
  going : ∀ connection server, s.state.phase ≠ .session connection (.finished server)
  held : Ledger.held s.note 0 = some (s.state.connectionOf + standing)

theorem resume_connection (s : MainLoop) (connection : Nat) {cli : Cli}
    (going : ∀ server, cli ≠ .finished server) :
    (s.resume connection cli).connectionOf = {.connection connection} ∧
      ∀ other server, (s.resume connection cli).phase ≠ .session other (.finished server) := by
  cases cli with
  | accepted => exact ⟨rfl,by simp [MainLoop.resume]⟩
  | serving => exact ⟨rfl,by simp [MainLoop.resume]⟩
  | finished server => exact absurd rfl (going server)

theorem held_closed (connection : Nat) :
    Ledger.held [.released (.connection connection)] ({.connection connection} + standing) =
      some (0 + standing) := by
  rw [Multiset.singleton_add,Ledger.held_released,Ledger.held_nil,Multiset.zero_add]

theorem step_connection {base : Server} {token : Option Token} {action : MainAction} {s next : MainLoop}
    (clean : Clean base token s) (going : ∀ connection server, s.phase ≠ .session connection (.finished server))
    (stepped : step action s = some next) :
    (∀ connection server, next.phase ≠ .session connection (.finished server)) ∧
      Ledger.held (s.socketCalls action) (s.connectionOf + standing) =
        some (next.connectionOf + standing) := by
  simp only [step] at stepped
  split at stepped
  next socket ipAddress port phase =>
    split at stepped
    next _ =>
      cases stepped
      refine ⟨by simp,?_⟩
      simp only [socketCalls,connectionOf,phase,Ledger.held_obtained,Ledger.held_nil]
      rfl
    next _ => cases stepped
  next phase =>
    split at stepped
    next _ => cases stepped
    next _ =>
      cases stepped
      refine ⟨by simp,?_⟩
      simp only [socketCalls,connectionOf,phase,Ledger.held_nil]
  next waits connection socket ipAddress port phase =>
    split at stepped
    next off =>
      cases stepped
      refine ⟨by simp,?_⟩
      simp only [socketCalls,connectionOf,phase,off,Ledger.held_nil]
    next token on =>
      cases stepped
      simp only [socketCalls,connectionOf,phase,on]
      split
      next _ => exact ⟨by simp,rfl⟩
      next _ => exact ⟨by simp,held_closed connection⟩
  next outcomes connection cli phase =>
    obtain ⟨after,taken,rfl⟩ := Option.map_eq_some_iff.mp stepped
    obtain ⟨ending,inv⟩ := clean.session connection cli phase
    have before : s.connectionOf = {.connection connection} := by simp only [connectionOf,phase]
    rcases session_calls phase inv taken with ⟨⟨server,rfl⟩,calls⟩ | ⟨staying,calls⟩
    · rw [calls,before]
      exact ⟨by simp [MainLoop.resume],held_closed connection⟩
    · obtain ⟨same,unfinished⟩ := resume_connection
        {s with log := if cli.requesting then .request connection::s.log else s.log} connection staying
      rw [calls,before,same]
      exact ⟨unfinished,rfl⟩
  next outcomes outcome connection cli phase =>
    obtain ⟨after,taken,rfl⟩ := Option.map_eq_some_iff.mp stepped
    have before : s.connectionOf = {.connection connection} := by simp only [connectionOf,phase]
    have staying : ∀ server, after ≠ .finished server := by
      cases cli with
      | serving session =>
        obtain ⟨left,_,rfl⟩ := Option.map_eq_some_iff.mp taken
        simp
      | accepted => cases taken
      | finished => cases taken
    obtain ⟨same,unfinished⟩ := resume_connection s connection staying
    rw [before,same]
    exact ⟨unfinished,rfl⟩
  next connection cli phase =>
    cases stepped
    have before : s.connectionOf = {.connection connection} := by simp only [connectionOf,phase]
    have staying : ∀ server, cli ≠ .finished server := fun server same => going connection server (same ▸ phase)
    obtain ⟨same,unfinished⟩ := resume_connection {s with running := false} connection staying
    rw [before,same]
    exact ⟨unfinished,rfl⟩
  next =>
    cases stepped
    exact ⟨going,rfl⟩
  next => cases stepped

theorem logging_accounted {base : Server} {token : Option Token} (enumerated : base.devices.Enumerated)
    (action : MainAction) (s next : Noted MainLoop ServerLog) (accounted : Accounted base token s)
    (stepped : logging action s = some next) : Accounted base token next := by
  obtain ⟨state,taken,rfl⟩ := noting_taken stepped
  obtain ⟨unfinished,held⟩ := step_connection accounted.clean accounted.going taken
  refine ⟨step_clean enumerated action _ _ accounted.clean taken,unfinished,?_⟩
  rw [Ledger.held_append,accounted.held,Option.bind_some,held]

end MainLoop

/-- The branch of `main` that lists the devices; neither `log_init` nor
`network_init` is looked at. -/
def serverListing (outcome : StartOutcome) : Int × ServerLog :=
  let log : ServerLog := if outcome.logMutex then [.obtained .log] else []
  let network : ServerLog := if outcome.winsock then [.obtained .winsock] else []
  let networkCleanup : ServerLog := if outcome.winsock then [.released .winsock] else []
  let logCleanup : ServerLog := if outcome.logMutex then [.released .log] else []
  (if outcome.nodes.isSome then 0 else 1,
    log ++ network ++ [.obtained .usbHost,.released .usbHost] ++ networkCleanup ++ logCleanup)

/-- How `main` ends: its exit code, all it obtained and released, and the server
it leaves if it ever served. -/
inductive ServerExit (argv : List Token) (outcome : StartOutcome) :
    Int → ServerLog → Option Server → Prop
  | usage (rejected : serverParseArgs argv = none) : ServerExit argv outcome 1 [] none
  | listed (options) (parsed : serverParseArgs argv = some options) (listOnly : options.listOnly = true) :
      ServerExit argv outcome (serverListing outcome).1 (serverListing outcome).2 none
  | failed (options err log) (parsed : serverParseArgs argv = some options)
      (serves : options.listOnly = false) (init : serverInit options outcome = (.error err,log)) :
      ServerExit argv outcome 1 log none
  | served (options s log actions) (final : Noted MainLoop ServerLog) (socketOf)
      (parsed : serverParseArgs argv = some options) (serves : options.listOnly = false)
      (init : serverInit options outcome = (.ok s,log))
      (run : Run MainLoop.logging ⟨s,log⟩ actions final) (ended : final.state.phase = .ended) :
      ServerExit argv outcome 0 (final.note ++ serverCleanup final.state socketOf)
        (some final.state.server)

theorem listing_balanced (outcome : StartOutcome) : Ledger.held (serverListing outcome).2 0 = some 0 := by
  obtain ⟨logMutex,winsock,_,_,_,_,_,_,_,_,_⟩ := outcome
  cases logMutex <;> cases winsock <;> rfl

theorem cleanup_balanced {s : MainLoop} (empty : s.server.manager.clients = [])
    (socketOf : ClientPtr → ServerResource) :
    Ledger.held (serverCleanup s socketOf) standing = some 0 := by
  simp only [serverCleanup,empty,List.map_nil,List.nil_append]
  rfl

/-- However the server program ends, it has given back all it obtained, but for
the log when it could not start. A server that has served leaves no client,
no open device and no handler with a worker or an entry. -/
theorem server_main_gives_back {argv : List Token} {outcome : StartOutcome} {code : Int} {log : ServerLog}
    {left : Option Server} (ends : ServerExit argv outcome code log left) :
    (∃ kept, Ledger.held log 0 = some kept ∧ (kept ≠ 0 → kept = {.log} ∧ code = 1)) ∧
    ∀ server, left = some server → code = 0 ∧ Ledger.held log 0 = some 0 ∧ server.manager.clients = [] ∧
      (∀ entry ∈ server.devices.entries, entry.device.Closed) ∧
      ∀ handler ∈ server.handlers, handler.Retired := by
  cases ends with
  | usage rejected => exact ⟨⟨0,rfl,by simp⟩,by simp⟩
  | listed options parsed listOnly => exact ⟨⟨0,listing_balanced outcome,by simp⟩,by simp⟩
  | failed options err log parsed serves init =>
    refine ⟨?_,by simp⟩
    rcases serverInit_cases options outcome with ⟨_,_,held⟩ | ⟨ok,_⟩
    · rw [init] at held
      refine ⟨_,held,?_⟩
      split <;> simp
    · rw [init] at ok
      cases ok
  | served options s log actions final socketOf parsed serves init run ended =>
    rcases serverInit_cases options outcome with ⟨_,failed,_⟩ | ⟨ok,held⟩
    · rw [init] at failed
      cases failed
    · rw [init] at ok held
      cases ok
      have enumerated := startDevices_enumerated options outcome
      have initially : MainLoop.Accounted (startServer options outcome)
          (some (authGetToken options.authToken outcome.env))
          ⟨.start (startServer options outcome) options.authToken outcome.env,log⟩ :=
        ⟨⟨.refl enumerated,rfl,by simp [MainLoop.start]⟩,by simp [MainLoop.start],held⟩
      have accounted := run.invariant _ (MainLoop.logging_accounted enumerated) initially
      have idle : final.state.connectionOf = 0 := by simp only [MainLoop.connectionOf,ended]
      have empty : final.state.server.manager.clients = [] := accounted.clean.leaves.clients
      obtain ⟨retired,made,gone⟩ := accounted.clean.leaves.handlers
      have balanced : Ledger.held (final.note ++ serverCleanup final.state socketOf) 0 = some 0 := by
        rw [Ledger.held_append,accounted.held,Option.bind_some,idle,Multiset.zero_add]
        exact cleanup_balanced empty socketOf
      refine ⟨⟨0,balanced,by simp⟩,?_⟩
      intro server same
      cases same
      refine ⟨rfl,balanced,empty,?_,?_⟩
      · exact fun entry member => (accounted.clean.leaves.devices.idle entry member).closed
      · intro handler member
        rw [made] at member
        exact gone handler member

def adapterStart : StartOutcome :=
  ⟨true,true,true,some [adapter "C8"],fun _ => true,fun _ => 0,true,true,true,true,none⟩

def adapterSession : List MainAction :=
  [.accept ⟨RecvEvent.unread (importRequest (adapter "C8").device.busid) [],.closed,[],[]⟩ .empty 0,
    .authenticate ⟨⟨fun _ => 0,fun _ _ => true⟩,⟨fun _ => 0,fun _ _ => true⟩⟩] ++
    List.replicate 6 (.session Cli.willing) ++ [.signal,.leave]

theorem server_main_gives_back_adapter : ∃ log server,
    ServerExit [] adapterStart 0 log (some server) ∧ server.handlers.length = 1 ∧
    Ledger.held log 0 = some 0 ∧ ∀ handler ∈ server.handlers, handler.Retired := by
  obtain ⟨final,run,checked⟩ := run_of_check MainLoop.logging adapterSession
    ⟨.start (startServer .default adapterStart) none none,(serverInit .default adapterStart).2⟩
    (fun s => match s.state.phase with
      | .ended => s.state.server.handlers.length = 1
      | _ => false) (by decide +kernel)
  cases phase : final.state.phase with
  | ended =>
    simp only [phase,decide_eq_true_eq] at checked
    have exits : ServerExit [] adapterStart 0 _ (some final.state.server) :=
      .served .default _ _ adapterSession final (fun client => .connection client) rfl rfl rfl run phase
    obtain ⟨_,served⟩ := server_main_gives_back exits
    obtain ⟨_,balanced,_,_,retired⟩ := served _ rfl
    exact ⟨_,_,exits,checked,balanced,retired⟩
  | _ => simp [phase] at checked

end UsbOverNetwork
