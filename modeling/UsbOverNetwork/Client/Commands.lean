import UsbOverNetwork.Client.Discovery
import UsbOverNetwork.Client.DriverLog
import UsbOverNetwork.Client.Main
import UsbOverNetwork.Client.SocketCloses
import UsbOverNetwork.Server.Startup

/-! The client as a program: its command line, and the attach command from its
first call to its last. -/
namespace UsbOverNetwork
open Options

inductive ClientCommand
  | none
  | discover
  | list
  | attach
  | detach
  | status
deriving DecidableEq

/-- The settings of `g_client`. -/
@[ext]
structure ClientOptions where
  command : ClientCommand
  serverIp : CString 63
  serverPort : UInt16
  busid : Busid
  port : Int
  verbose : Bool
  authToken : Option Token
deriving DecidableEq

def ClientOptions.default : ClientOptions where
  command := .none
  serverIp := .empty
  serverPort := usbipPort
  busid := .empty
  port := -1
  verbose := false
  authToken := Option.none

inductive ClientOption
  | help
  | verbose
  | port
  | authToken
deriving DecidableEq

def clientOption (word : Token) : Option ClientOption :=
  if word.is "-h" || word.is "--help" then some .help
  else if word.is "-v" || word.is "--verbose" then some .verbose
  else if word.is "-p" || word.is "--port" then some .port
  else if word.is "-k" || word.is "--auth-token" then some .authToken
  else none

def ClientOption.action : ClientOption → Option (Action Token ClientOptions)
  | .help => none
  | .verbose => some (.flag fun options => {options with verbose := true})
  | .port => some (.valued fun value options => {options with serverPort := portOf value})
  | .authToken => some (.valued fun value options => {options with authToken := some value})

/-- `argv[i][0] == '-'` -/
def Token.optional (word : Token) : Bool := word.chars.head? = some 0x2d

/-- The command and its arguments; what comes behind them is not looked at. -/
def parseCommand (options : ClientOptions) : List Token → Option ClientOptions
  | [] => none
  | cmd::rest =>
    if cmd.is "discover" then some {options with command := .discover}
    else if cmd.is "list" then
      match rest with
      | serverIp::_ => some {options with command := .list, serverIp := .ofBuffer serverIp.chars}
      | [] => none
    else if cmd.is "attach" then
      match rest with
      | serverIp::busid::_ => some {options with
          command := .attach, serverIp := .ofBuffer serverIp.chars, busid := .ofBuffer busid.chars}
      | _ => none
    else if cmd.is "detach" then
      match rest with
      | port::_ => some {options with command := .detach, port := Text.atoi port.chars}
      | [] => none
    else if cmd.is "status" then some {options with command := .status}
    else none

abbrev clientTable (word : Token) : Option (Action Token ClientOptions) :=
  (clientOption word).bind ClientOption.action

/-- `parse_args` on the words behind the program's name; `none` when it returns -1. -/
def clientParseArgs (argv : List Token) : Option ClientOptions :=
  (scan clientTable Token.optional argv .default).bind fun (options,rest) => parseCommand options rest

inductive ClientRequest
  | discover
  | list (serverIp : Token)
  | attach (serverIp busid : Token)
  | detach (port : Token)
  | status

namespace ClientRequest

def words : ClientRequest → List (List UInt8)
  | .discover => [Text.ascii "discover"]
  | .list serverIp => [Text.ascii "list",serverIp.chars]
  | .attach serverIp busid => [Text.ascii "attach",serverIp.chars,busid.chars]
  | .detach port => [Text.ascii "detach",port.chars]
  | .status => [Text.ascii "status"]

def write (options : ClientOptions) : ClientRequest → ClientOptions
  | .discover => {options with command := .discover}
  | .list serverIp => {options with command := .list, serverIp := .ofBuffer serverIp.chars}
  | .attach serverIp busid =>
    {options with
      command := .attach, serverIp := .ofBuffer serverIp.chars, busid := .ofBuffer busid.chars}
  | .detach port => {options with command := .detach, port := Text.atoi port.chars}
  | .status => {options with command := .status}

end ClientRequest

def ClientOption.names (option : ClientOption) (word : Token) : Bool := clientOption word = some option

def ClientUse : Use Token → Prop
  | .alone word => clientOption word = some .verbose
  | .followed word _ => clientOption word = some .port ∨ clientOption word = some .authToken

/-- The settings that a sequence of options describes, in whatever order they come. -/
def ClientOptions.described (uses : List (Use Token)) : ClientOptions :=
  {ClientOptions.default with
    serverPort := (Use.last? (ClientOption.names .port) uses).elim usbipPort portOf
    authToken := (Use.last? (ClientOption.names .authToken) uses).elim none some
    verbose := uses.any fun use => ClientOption.names .verbose use.word}

section Arguments

def ClientOptions.after (options : ClientOptions) (use : Use Token) : ClientOptions :=
  {options with
    serverPort := (use.value? (ClientOption.names .port)).elim options.serverPort portOf
    authToken := (use.value? (ClientOption.names .authToken)).elim options.authToken some
    verbose := options.verbose || ClientOption.names .verbose use.word}

theorem apply_client (use : Use Token) (options next : ClientOptions) :
    Use.apply clientTable options use = some next ↔ ClientUse use ∧ next = options.after use := by
  obtain ⟨known,named⟩ : ∃ known, clientOption use.word = known := ⟨_,rfl⟩
  cases use with
  | alone word =>
    rw [Use.word] at named
    simp only [Use.apply,clientTable,ClientUse,ClientOptions.after,Use.value?,Use.word,
      ClientOption.names,named]
    cases known with
    | none => simp
    | some option => cases option <;> simp [ClientOption.action,eq_comm]
  | followed word value =>
    rw [Use.word] at named
    simp only [Use.apply,clientTable,ClientUse,ClientOptions.after,Use.value?,Use.word,
      ClientOption.names,named]
    cases known with
    | none => simp
    | some option => cases option <;> simp [ClientOption.action,eq_comm]

theorem client_described (uses : List (Use Token)) :
    uses.foldl ClientOptions.after .default = .described uses := by
  apply ClientOptions.ext
  · exact foldl_kept .after ClientOptions.command (fun _ _ => rfl) uses _
  · exact foldl_kept .after ClientOptions.serverIp (fun _ _ => rfl) uses _
  · exact foldl_last .after ClientOptions.serverPort _ portOf (fun _ _ => rfl) uses _
  · exact foldl_kept .after ClientOptions.busid (fun _ _ => rfl) uses _
  · exact foldl_kept .after ClientOptions.port (fun _ _ => rfl) uses _
  · exact (foldl_switch .after ClientOptions.verbose _ (fun _ _ => rfl) uses _).trans (Bool.false_or _)
  · exact foldl_last .after ClientOptions.authToken _ some (fun _ _ => rfl) uses _

theorem Token.is_iff {word : Token} {name : String} : word.is name = true ↔ word.chars = Text.ascii name :=
  decide_eq_true_iff

theorem clientOption_optional {word : Token} {option : ClientOption} (known : clientOption word = some option) :
    word.optional = true := by
  have dashed {name : String} (is : word.is name = true) (dash : (Text.ascii name).head? = some 0x2d) :
      word.optional = true := by
    rw [Token.optional,Token.is_iff.mp is,dash]
    rfl
  simp only [clientOption,Bool.or_eq_true] at known
  split at known
  next named => rcases named with short | long <;> exact dashed ‹_› (by decide)
  next _ =>
    split at known
    next named => rcases named with short | long <;> exact dashed ‹_› (by decide)
    next _ =>
      split at known
      next named => rcases named with short | long <;> exact dashed ‹_› (by decide)
      next _ =>
        split at known
        next named => rcases named with short | long <;> exact dashed ‹_› (by decide)
        next _ => cases known

theorem ClientUse.optional {use : Use Token} (proper : ClientUse use) : use.word.optional = true := by
  cases use with
  | alone word => exact clientOption_optional proper
  | followed word value =>
    rcases proper with port | authToken
    · exact clientOption_optional port
    · exact clientOption_optional authToken

theorem parseCommand_iff (options final : ClientOptions) (words : List Token) :
    parseCommand options words = some final ↔
      ∃ (request : ClientRequest) (command ignored : List Token), words = command ++ ignored ∧
        command.map Token.chars = request.words ∧ final = request.write options := by
  constructor
  · intro parsed
    cases words with
    | nil => cases parsed
    | cons cmd rest =>
      simp only [parseCommand,Token.is_iff] at parsed
      split at parsed
      next named => exact ⟨.discover,[cmd],rest,rfl,by simp [ClientRequest.words,named],(Option.some.inj parsed).symm⟩
      next _ =>
        split at parsed
        next named =>
          cases rest with
          | nil => cases parsed
          | cons serverIp rest =>
            exact ⟨.list serverIp,[cmd,serverIp],rest,rfl,by simp [ClientRequest.words,named],
              (Option.some.inj parsed).symm⟩
        next _ =>
          split at parsed
          next named =>
            match rest,parsed with
            | serverIp::busid::rest,parsed =>
              exact ⟨.attach serverIp busid,[cmd,serverIp,busid],rest,rfl,by simp [ClientRequest.words,named],
                (Option.some.inj parsed).symm⟩
          next _ =>
            split at parsed
            next named =>
              cases rest with
              | nil => cases parsed
              | cons port rest =>
                exact ⟨.detach port,[cmd,port],rest,rfl,by simp [ClientRequest.words,named],
                  (Option.some.inj parsed).symm⟩
            next _ =>
              split at parsed
              next named =>
                exact ⟨.status,[cmd],rest,rfl,by simp [ClientRequest.words,named],(Option.some.inj parsed).symm⟩
              next _ => cases parsed
  · intro described
    obtain ⟨request,command,ignored,rfl,named,rfl⟩ := described
    cases request with
    | discover =>
      obtain ⟨⟨_,_⟩,rfl,rfl⟩ := List.map_eq_singleton_iff.mp named
      rfl
    | list serverIp =>
      obtain ⟨⟨_,_⟩,tail,rfl,rfl,rest⟩ := List.map_eq_cons_iff.mp named
      obtain ⟨ip,rfl,chars⟩ := List.map_eq_singleton_iff.mp rest
      cases Token.ext chars
      rfl
    | attach serverIp busid =>
      obtain ⟨⟨_,_⟩,tail,rfl,rfl,rest⟩ := List.map_eq_cons_iff.mp named
      obtain ⟨ip,_,rfl,chars,last⟩ := List.map_eq_cons_iff.mp rest
      obtain ⟨name,rfl,busidChars⟩ := List.map_eq_singleton_iff.mp last
      cases Token.ext chars
      cases Token.ext busidChars
      rfl
    | detach port =>
      obtain ⟨⟨_,_⟩,tail,rfl,rfl,rest⟩ := List.map_eq_cons_iff.mp named
      obtain ⟨number,rfl,chars⟩ := List.map_eq_singleton_iff.mp rest
      cases Token.ext chars
      rfl
    | status =>
      obtain ⟨⟨_,_⟩,rfl,rfl⟩ := List.map_eq_singleton_iff.mp named
      rfl

theorem request_stops {request : ClientRequest} {command ignored : List Token}
    (named : command.map Token.chars = request.words) :
    ∀ word ∈ (command ++ ignored).head?, word.optional = false := by
  have plain {word : Token} {rest : List Token} {name : String} (is : word.chars = Text.ascii name)
      (dash : (Text.ascii name).head? ≠ some 0x2d) :
      ∀ first ∈ (word::rest).head?, first.optional = false := by
    intro first here
    cases Option.mem_some_iff.mp here
    rw [Token.optional,is]
    exact decide_eq_false dash
  cases command with
  | nil => cases request <;> cases named
  | cons word rest =>
    rw [List.map_cons] at named
    cases request with
    | discover => exact plain (List.cons.inj named).1 (by decide)
    | list serverIp => exact plain (List.cons.inj named).1 (by decide)
    | attach serverIp busid => exact plain (List.cons.inj named).1 (by decide)
    | detach port => exact plain (List.cons.inj named).1 (by decide)
    | status => exact plain (List.cons.inj named).1 (by decide)

/-- The client accepts the command lines of its usage text, and nothing else:
options in any order, each with its value if it takes one, and then one command
with its arguments. An option behind the command has no effect. -/
theorem client_parse_args_iff (argv : List Token) (options : ClientOptions) :
    clientParseArgs argv = some options ↔
      ∃ (uses : List (Use Token)) (request : ClientRequest) (command ignored : List Token),
        argv = uses.flatMap Use.words ++ (command ++ ignored) ∧ (∀ use ∈ uses, ClientUse use) ∧
        command.map Token.chars = request.words ∧ options = request.write (.described uses) := by
  simp only [clientParseArgs,Option.bind_eq_some_iff,Prod.exists,scan_iff,applyAll_iff apply_client,
    client_described]
  constructor
  · intro parsed
    obtain ⟨_,rest,⟨uses,split,_,_,proper,rfl⟩,taken⟩ := parsed
    obtain ⟨request,command,ignored,rfl,named,written⟩ := (parseCommand_iff _ _ _).mp taken
    exact ⟨uses,request,command,ignored,split,proper,named,written⟩
  · intro described
    obtain ⟨uses,request,command,ignored,split,proper,named,written⟩ := described
    refine ⟨_,_,⟨uses,split,?_,request_stops named,proper,rfl⟩,?_⟩
    · exact fun use member => (proper use member).optional
    · exact (parseCommand_iff _ _ _).mpr ⟨request,command,ignored,rfl,named,written⟩

end Arguments

namespace RemoteClient
open Runs

variable {s next : RemoteClient} {device : RemoteDevice} {call : ConnectCall} {err : ErrorCode}

theorem attachDevice_connections (s : RemoteClient) (device : RemoteDevice) (call : ConnectCall)
    (socket : Nat) (serverIp : Token) :
    (s.attachDevice device call socket serverIp).2.connections = s.connections := by
  simp only [attachDevice]
  split
  next _ => exact free_connections _ _ _
  next _ =>
    split
    next _ => exact free_connections _ _ _
    next _ => rfl

theorem importDevice_connections {socket : Socket} {serverIp busid : Token}
    (ended : s.importDevice device call socket serverIp busid = some (err,next)) :
    next.connections = s.connections+1 := by
  simp only [importDevice] at ended
  split at ended
  next _ =>
    cases Option.some.inj ended
    exact free_connections _ _ _
  next _ =>
    split at ended
    next _ => cases ended
    next _ =>
      cases Option.some.inj ended
      exact free_connections _ _ _
    next _ =>
      split at ended
      next _ =>
        have attached := attachDevice_connections _ _ _ _ _ |>.symm.trans
          (congrArg (fun result => result.2.connections) (Option.some.inj ended))
        exact attached.symm
      next _ =>
        cases Option.some.inj ended
        rfl

theorem connect_failed (ended : s.remoteDeviceConnect call = some (err,next)) (failed : err ≠ .success) :
    next.connections = s.connections ∨
      next.connections = s.connections+1 ∧ 0 < next.closes s.connections := by
  unfold remoteDeviceConnect at ended
  split at ended
  next serverIp busid _ _ =>
    split at ended
    next _ =>
      cases Option.some.inj ended
      exact Or.inl rfl
    next address _ =>
      split at ended
      next _ => cases ended
      next _ =>
        split at ended
        next _ =>
          cases Option.some.inj ended
          exact Or.inl (free_connections _ _ _)
        next socket _ =>
          refine Or.inr ⟨importDevice_connections ended,?_⟩
          by_cases accepted : (call.handshake socket).1 = .success
          · rw [(accepted_closes accepted ended).1 failed]
            exact Nat.succ_pos _
          · rw [(refused_closes accepted ended).2]
            exact Nat.succ_pos _
  next _ =>
    cases Option.some.inj ended
    exact Or.inl rfl

theorem closes_mono (grown : s.log <:+ next.log) (socket : Nat) : s.closes socket ≤ next.closes socket :=
  grown.sublist.count_le _

/-- A socket that has been connected and not closed belongs to a device on the list. -/
def Sheltered (s : RemoteClient) : Prop :=
  ∀ socket < s.connections, s.closes socket = 0 → ∃ device ∈ s.list.devices, device.socket = some socket

namespace Sheltered

theorem record (sheltered : s.Sheltered) (events : List ClientEvent) : (s.record events).Sheltered := by
  intro socket dialled unclosed
  rw [closes_record] at unclosed
  exact sheltered socket dialled (by omega)

theorem connected (sheltered : s.Sheltered) (grown : s.log <:+ next.log)
    (kept : ∀ device ∈ s.list.devices, device ∈ next.list.devices)
    (dialled : next.connections = s.connections+1)
    (held : 0 < next.closes s.connections ∨ ∃ device ∈ next.list.devices, device.socket = some s.connections) :
    next.Sheltered := by
  intro socket earlier unclosed
  rw [dialled] at earlier
  rcases Nat.lt_succ_iff_lt_or_eq.mp earlier with old | rfl
  · have open_before : s.closes socket = 0 := by
      have := closes_mono grown socket
      omega
    obtain ⟨device,member,own⟩ := sheltered socket old open_before
    exact ⟨device,kept device member,own⟩
  · rcases held with closed | held
    · omega
    · exact held

theorem closed (sheltered : s.Sheltered) (list : next.list = s.list)
    (dialled : next.connections = s.connections+1) {events net : List ClientEvent}
    (log : next.log = events ++ (net ++ s.log)) (closes : .close s.connections ∈ events) :
    next.Sheltered := by
  have grown : s.log <:+ next.log := by
    rw [log,← List.append_assoc]
    exact List.suffix_append _ _
  have once : 0 < next.closes s.connections := by
    apply List.count_pos_iff.mpr
    rw [log]
    exact List.mem_append_left _ closes
  exact sheltered.connected grown (fun device member => list ▸ member) dialled (Or.inl once)

theorem connect (sheltered : s.Sheltered) (ended : s.remoteDeviceConnect call = some (err,next)) :
    next.Sheltered := by
  have failing := connect_failed ended
  cases connect_cases ended with
  | failed err net connections fails unmet own dialled =>
    rcases failing fails with same | ⟨more,closed⟩
    · have stayed : connections = s.connections := same
      rw [stayed]
      exact sheltered.record net
    · have grown : s.log <:+ (RemoteClient.record {s with connections} net).log := ⟨net,rfl⟩
      exact sheltered.connected grown (fun _ member => member) more (Or.inl closed)
  | listed info net device met plain own imported =>
    apply sheltered.connected ⟨net,rfl⟩ (fun _ member => List.mem_cons_of_mem _ member) rfl
    exact Or.inr ⟨_,List.mem_cons_self,imported.socket⟩
  | asked info net device serverIp err next met asks own imported attach =>
    cases attach with
    | attached i found ready free driver devid plug info claimed =>
      apply sheltered.connected ⟨.plugin i s.connections devid true::net,rfl⟩
        (fun _ member => List.mem_cons_of_mem _ member) rfl
      exact Or.inr ⟨_,List.mem_cons_self,imported.socket⟩
    | noPort none =>
      apply sheltered.closed
      · rfl
      · rfl
      · rfl
      · simp [socketClose]
    | noDriver i found ready free driver =>
      apply sheltered.closed
      · rfl
      · rfl
      · rfl
      · simp [socketClose]
    | refused i found ready free driver devid plug =>
      apply sheltered.closed
      · rfl
      · rfl
      · rfl
      · simp [socketClose]

theorem disconnect (sheltered : s.Sheltered) (pointer : Option Nat) (unplug : Bool) :
    (s.remoteDeviceDisconnect pointer unplug).2.Sheltered := by
  rcases disconnect_cases s pointer unplug with ⟨_,same⟩ | ⟨before,device,after,listed,_,freed⟩
  · rw [same]
    exact sheltered
  · rw [freed]
    intro socket dialled unclosed
    rw [free_connections] at dialled
    rw [free_list]
    by_cases own : device.socket = some socket
    · rw [free_closes own] at unclosed
      cases unclosed
    · have open_before : s.closes socket = 0 := by
        obtain ⟨requests,_,appended⟩ := free_log (s.unlink (before ++ after)) device unplug
        have grown : s.log <:+ ((s.unlink (before ++ after)).freeRemoteDevice device unplug).log := by
          rw [appended,← List.append_assoc]
          exact List.suffix_append _ _
        have := closes_mono grown socket
        omega
      obtain ⟨other,member,held⟩ := sheltered socket dialled open_before
      rw [listed] at member
      refine ⟨other,?_,held⟩
      rcases List.mem_append.mp member with left | right
      · exact List.mem_append_left _ left
      · rcases List.mem_cons.mp right with rfl | right
        · exact absurd held own
        · exact List.mem_append_right _ right

end Sheltered

theorem step_sheltered (action : ClientCall) (s next : RemoteClient) (sheltered : s.Sheltered)
    (taken : step action s = some next) : next.Sheltered := by
  have kept (s : RemoteClient) (device : Option Nat) (unplug : Bool) (sheltered : s.Sheltered) :=
    sheltered.disconnect device unplug
  cases action with
  | connect call =>
    obtain ⟨⟨err,after⟩,ended,rfl⟩ := Option.map_eq_some_iff.mp taken
    exact sheltered.connect ended
  | disconnect device unplug => exact Option.some.inj taken ▸ sheltered.disconnect device unplug
  | disconnectPort port unplug => exact Option.some.inj taken ▸ disconnectPort_kept kept port unplug sheltered
  | disconnectAll unplugs => exact Option.some.inj taken ▸ disconnectAll_kept kept unplugs sheltered
  | listCleanup unplugs =>
    exact Option.some.inj taken ▸ listCleanup_kept kept (fun _ sheltered => sheltered) unplugs sheltered
  | vhciCleanup unplugs =>
    cases Option.some.inj taken
    exact sheltered.record _

/-- The calls of a client between its start and its end, all for a port. -/
def Working : ClientCall → RemoteClient → Prop
  | .connect call,_ => call.vhci = true
  | .listCleanup _,_ => False
  | .vhciCleanup _,_ => False
  | _,_ => True

def shutDown (s : RemoteClient) (unplugs : Nat → Bool) (ports : Fin vhciMaxPorts → Bool) : RemoteClient :=
  (s.remoteDeviceListCleanup unplugs).cleanup ports

structure Busy (s : RemoteClient) : Prop where
  ready : s.list.initialized = true
  bookkept : s.Bookkept
  wired : s.vhci.Wired s.log
  sheltered : s.Sheltered

theorem disconnect_list (s : RemoteClient) (pointer : Option Nat) (unplug : Bool) :
    (s.remoteDeviceDisconnect pointer unplug).2.list.initialized = s.list.initialized := by
  rcases disconnect_cases s pointer unplug with ⟨_,same⟩ | ⟨before,device,after,_,_,freed⟩
  · rw [same]
  · rw [freed,free_list]
    rfl

theorem connect_list (ended : s.remoteDeviceConnect call = some (err,next)) :
    next.list.initialized = s.list.initialized := by
  cases connect_cases ended with
  | failed => rfl
  | listed => rfl
  | asked info net device serverIp err next met asks own imported attach => cases attach <;> rfl

theorem step_busy (action : ClientCall) (s next : RemoteClient) (working : Working action s) (busy : s.Busy)
    (taken : step action s = some next) : next.Busy := by
  have used : InUse action s := by
    cases action with
    | connect call => exact working
    | vhciCleanup ports => exact working.elim
    | _ => trivial
  refine ⟨?_,step_bookkept action s next used busy.bookkept taken,
    (step_rewired action s next busy.wired taken).1,step_sheltered action s next busy.sheltered taken⟩
  have kept (s : RemoteClient) (pointer : Option Nat) (unplug : Bool) (ready : s.list.initialized = true) :
      (s.remoteDeviceDisconnect pointer unplug).2.list.initialized = true :=
    (disconnect_list s pointer unplug).trans ready
  cases action with
  | connect call =>
    obtain ⟨⟨err,after⟩,ended,rfl⟩ := Option.map_eq_some_iff.mp taken
    exact (connect_list ended).trans busy.ready
  | disconnect device unplug => exact Option.some.inj taken ▸ kept _ _ _ busy.ready
  | disconnectPort port unplug =>
    exact Option.some.inj taken ▸ disconnectPort_kept kept port unplug busy.ready
  | disconnectAll unplugs => exact Option.some.inj taken ▸ disconnectAll_kept kept unplugs busy.ready
  | listCleanup unplugs => exact working.elim
  | vhciCleanup unplugs => exact working.elim

theorem start_busy (opened : Bool) : (start opened).Busy :=
  ⟨rfl,.start opened,start_wired opened,fun _ dialled => absurd dialled (Nat.not_lt_zero _)⟩

/-- Nothing is left of what a busy client did: no device, no open socket and
nothing in a port. The ports have been empty since the list was. -/
theorem Busy.shutDown (busy : s.Busy) (unplugs : Nat → Bool) (ports : Fin vhciMaxPorts → Bool) :
    let after := s.shutDown unplugs ports
    after.list.devices = [] ∧ (∀ i, plugged i after.log = false) ∧
      (∀ socket < after.connections, 0 < after.closes socket) ∧
      after.log = (s.remoteDeviceDisconnectAll unplugs).log := by
  have disconnected : (s.remoteDeviceDisconnectAll unplugs).Busy :=
    step_busy (.disconnectAll unplugs) s _ trivial busy rfl
  have empty := disconnectAll_empty busy.ready unplugs
  have cleaned : s.remoteDeviceListCleanup unplugs =
      {s.remoteDeviceDisconnectAll unplugs with
        list := {(s.remoteDeviceDisconnectAll unplugs).list with initialized := false}} := by
    rw [remoteDeviceListCleanup,busy.ready]
    rfl
  generalize s.remoteDeviceDisconnectAll unplugs = left at disconnected empty cleaned
  have free (i : Fin vhciMaxPorts) : (left.vhci.port i).state = .free := by
    rw [disconnected.bookkept.unused i (by simp [empty])]
    rfl
  have nothing := vhciCleanup_free free ports
  have log : (s.shutDown unplugs ports).log = left.log := by
    simp only [RemoteClient.shutDown,cleaned,cleanup,record,nothing,List.nil_append]
  refine ⟨?_,?_,?_,log⟩
  · simp only [RemoteClient.shutDown,cleaned,cleanup,record]
    exact empty
  · intro i
    rw [log]
    exact disconnected.wired.unplugged disconnected.bookkept.ready (free i)
  · intro socket dialled
    have dialledBefore : socket < left.connections := by
      simpa only [RemoteClient.shutDown,cleaned,cleanup,record] using dialled
    apply Nat.pos_of_ne_zero
    intro unclosed
    have open_before : left.closes socket = 0 := by
      rw [← unclosed,closes,closes,log]
    obtain ⟨device,member,_⟩ := disconnected.sheltered socket dialledBefore open_before
    rw [empty] at member
    cases member

end RemoteClient

inductive ClientResource
  | log
  | winsock
  | ports
  | driver
  | deviceList
deriving DecidableEq

abbrev ClientLog := List (Ledger.Entry ClientResource)

structure AttachSystem where
  logMutex : Bool
  winsock : Bool
  env : Option Token
  ports : Bool
  driver : Bool
  listMutex : Bool
  alloc : Option Nat
  socket : Option Socket
  plug : Bool
  unplug : Bool

namespace AttachSystem

/-- The call of `remote_device_connect` in `cmd_attach`. -/
def call (sys : AttachSystem) (options : ClientOptions) : ConnectCall where
  vhci := true
  serverIp := some (.ofCString options.serverIp)
  serverPort := options.serverPort
  busid := some (.ofCString options.busid)
  token := some (authGetToken options.authToken sys.env)
  alloc := sys.alloc
  socket := sys.socket
  plug := sys.plug
  unplug := sys.unplug

/-- `vhci_init` when it succeeds. -/
def opens (sys : AttachSystem) : ClientLog :=
  .obtained .ports::if sys.driver then [.obtained .driver] else []

/-- `vhci_cleanup` -/
def closes (sys : AttachSystem) : ClientLog :=
  (if sys.driver then [.released .driver] else []) ++ [.released .ports]

def shutDown (sys : AttachSystem) (s : RemoteClient) : RemoteClient :=
  s.shutDown (fun _ => sys.unplug) fun _ => sys.unplug

end AttachSystem

/-- `cmd_attach`: the exit code, the resources in order, and the client as it
leaves it, if it came to have one. An attached device stays until the signal. -/
def cmdAttach (options : ClientOptions) (sys : AttachSystem) :
    Option (Int × ClientLog × Option RemoteClient) :=
  if !sys.ports then some (1,[],none)
  else if !sys.listMutex then some (1,sys.opens ++ sys.closes,none)
  else
    let log : ClientLog := sys.opens ++ [.obtained .deviceList] ++ [.released .deviceList] ++ sys.closes
    match (RemoteClient.start sys.driver).remoteDeviceConnect (sys.call options) with
    | none => none
    | some (err,s) =>
      if err ≠ .success then some (1,log,some (sys.shutDown s))
      else some (0,log,some (sys.shutDown (s.remoteDeviceDisconnect sys.alloc sys.unplug).2))

/-- `main` where the command is to attach a device. -/
def attachMain (options : ClientOptions) (sys : AttachSystem) :
    Option (Int × ClientLog × Option RemoteClient) :=
  if !sys.logMutex then some (1,[],none)
  else if !sys.winsock then some (1,[.obtained .log],none)
  else (cmdAttach options sys).map fun (code,log,left) =>
    (code,[.obtained .log,.obtained .winsock] ++ log ++ [.released .winsock,.released .log],left)

structure AttachSystem.Starts (sys : AttachSystem) : Prop where
  logMutex : sys.logMutex = true
  winsock : sys.winsock = true
  ports : sys.ports = true
  listMutex : sys.listMutex = true

structure AttachSystem.Attaches (sys : AttachSystem) (options : ClientOptions) : Prop where
  starts : sys.Starts
  imported : (sys.call options).info ≠ none
  driver : sys.driver = true
  plug : sys.plug = true

def attachedAndDetached (call : ConnectCall) (info : UsbipUsbDevice) (unplug : Bool) : List ClientEvent :=
  [.unplug portZero unplug,.close 0,.shutdown 0,
    .plugin portZero 0 ((info.busnum <<< 16) ||| info.devnum) true,.traffic 0] ++
    if authIsEnabled call.token then [.traffic 0] else []

namespace RemoteClient

variable {call : ConnectCall} {info : UsbipUsbDevice}

theorem start_free (opened : Bool) : vhciFindFreePort (start opened).vhci = portZero.val := by
  cases opened <;> decide

theorem attachDevice_first (s : RemoteClient) (vhci : s.vhci = (start true).vhci) (device : RemoteDevice)
    (plug : call.plug = true) (socket : Nat) (serverIp : Token) :
    let info := (s.vhci.port portZero).claim device.deviceInfo serverIp call.serverPort
    s.attachDevice device call socket serverIp = (.success,
      ({s with vhci := s.vhci.setPort portZero {info with state := .connected}}.record
        [.plugin portZero socket info.devid true]).addRemoteDevice
        {device with vhciPort := portZero.val}) := by
  have ready : s.vhci.initialized := by rw [vhci]; rfl
  have driver : s.vhci.driver = true := by rw [vhci]; rfl
  have free : (s.vhci.port portZero).state = .free := by rw [vhci]; decide
  have found : vhciFindFreePort s.vhci = portZero.val := by rw [vhci]; exact start_free true
  have inRange : ¬((portZero.val : Nat) : Int) < 0 := by omega
  simp only [attachDevice,found,if_neg inRange,vhciAttach_free ready free,driver,plug,Bool.not_true,
    Bool.false_eq_true,if_false,ne_eq,not_true_eq_false]

theorem start_attaches (met : call.info = some info) (asks : call.vhci = true) (plug : call.plug = true) :
    ∃ next device, (start true).remoteDeviceConnect call = some (.success,next) ∧
      next.list.devices = [device] ∧ call.alloc = some device.address ∧ device.vhci = true ∧
      device.vhciPort = portZero.val ∧ device.socket = some 0 ∧ next.vhci.initialized = true ∧
      next.vhci.driver = true ∧ (next.vhci.port portZero).state = .connected ∧
      next.log = [.plugin portZero 0 ((info.busnum <<< 16) ||| info.devnum) true,.traffic 0] ++
        if authIsEnabled call.token then [.traffic 0] else [] := by
  unfold ConnectCall.info at met
  split at met
  next serverIp busid address socket ip name allocated opened =>
    cases shaken : call.handshake socket with
    | mk authErr greeted =>
      rw [shaken] at met
      split at met
      next after same =>
        cases same
        split at met
        next record rest exchanged =>
          cases Option.some.inj met
          have unlisted : address ∉ (start true).list.devices.map RemoteDevice.address := List.not_mem_nil
          simp only [remoteDeviceConnect,ip,name,allocated,opened,if_neg unlisted,importDevice,shaken,ne_eq,
            not_true_eq_false,if_false,exchanged,asks,if_true]
          rw [attachDevice_first _ (by rfl) _ plug]
          refine ⟨_,_,rfl,rfl,rfl,rfl,rfl,rfl,rfl,rfl,?_,?_⟩
          · rw [addRemoteDevice,record,VhciContext.port_setPort_same]
          · cases authIsEnabled call.token <;> rfl
        next => cases met
      next => cases met
  next => cases met

theorem connect_start_iff {opened : Bool} {err : ErrorCode} {next : RemoteClient} (asks : call.vhci = true)
    (ended : (start opened).remoteDeviceConnect call = some (err,next)) :
    err = .success ↔ call.info ≠ none ∧ opened = true ∧ call.plug = true := by
  cases connect_cases ended with
  | failed err net connections fails unmet own dialled =>
    exact iff_of_false fails (fun met => met.1 unmet)
  | listed info net device met plain => exact absurd asks (by rw [plain]; decide)
  | asked info net device serverIp err next met asks own imported attach =>
    have known : call.info ≠ none := by rw [met]; exact Option.some_ne_none _
    cases attach with
    | noPort unported =>
      have first : vhciFindFreePort (start opened).vhci = -1 := unported
      rw [start_free] at first
      omega
    | noDriver i found ready free driver =>
      have missing : opened = false := driver
      exact iff_of_false (by decide) (by rw [missing]; simp)
    | refused i found ready free driver devid plug => exact iff_of_false (by decide) (by rw [plug]; simp)
    | attached i found ready free driver devid plug => exact iff_of_true rfl ⟨known,driver,plug⟩

theorem attached_detached {next : RemoteClient} (met : call.info = some info) (asks : call.vhci = true)
    (plug : call.plug = true) (ended : (start true).remoteDeviceConnect call = some (.success,next))
    (unplug : Bool) :
    (next.remoteDeviceDisconnect call.alloc unplug).2.list.devices = [] ∧
      (next.remoteDeviceDisconnect call.alloc unplug).2.log = attachedAndDetached call info unplug := by
  obtain ⟨after,device,attached,listed,allocated,ported,port,dialled,ready,driver,connected,log⟩ :=
    start_attaches met asks plug
  rw [ended] at attached
  cases attached
  rw [allocated,disconnect_head listed,free_ported ported port]
  have taken : (next.vhci.port portZero).state ≠ .free := by
    rw [connected]
    decide
  have detached := vhciDetach_taken ready taken unplug
  rw [driver] at detached
  rw [show (next.unlink []).vhci = next.vhci from rfl,detached,dialled]
  refine ⟨rfl,?_⟩
  show [ClientEvent.unplug portZero unplug] ++ (socketClose 0 ++ next.log) = _
  rw [log]
  rfl

theorem disconnectAll_nil {s : RemoteClient} (empty : s.list.devices = []) (unplugs : Nat → Bool) :
    s.remoteDeviceDisconnectAll unplugs = s := by
  rw [remoteDeviceDisconnectAll,empty]
  split <;> rfl

end RemoteClient

section AttachProgram

variable {options : ClientOptions} {sys : AttachSystem}

/-- How `main` ends with this command: before there is a client, or with one
that is taken down. -/
inductive AttachExit (options : ClientOptions) (sys : AttachSystem) :
    Int → ClientLog → Option RemoteClient → Prop
  | early (log kept) (unready : ¬sys.Starts) (held : Ledger.held log 0 = some kept)
      (leak : kept ≠ 0 → kept = {.log}) : AttachExit options sys 1 log none
  | failed (log err s) (starts : sys.Starts) (balanced : Ledger.held log 0 = some 0) (busy : s.Busy)
      (connected : (RemoteClient.start sys.driver).remoteDeviceConnect (sys.call options) = some (err,s))
      (fails : err ≠ .success) : AttachExit options sys 1 log (some (sys.shutDown s))
  | detached (log next) (starts : sys.Starts) (balanced : Ledger.held log 0 = some 0) (busy : next.Busy)
      (connected : (RemoteClient.start sys.driver).remoteDeviceConnect (sys.call options) =
        some (.success,next)) :
      AttachExit options sys 0 log (some (sys.shutDown (next.remoteDeviceDisconnect sys.alloc sys.unplug).2))

variable {code : Int} {log : ClientLog} {left : Option RemoteClient}

theorem cmdAttach_cases (ends : cmdAttach options sys = some (code,log,left)) :
    (¬(sys.ports = true ∧ sys.listMutex = true) ∧ code = 1 ∧ Ledger.held log 0 = some 0 ∧ left = none) ∨
    (sys.ports = true ∧ sys.listMutex = true ∧ ∃ err next,
      log = sys.opens ++ [.obtained .deviceList] ++ [.released .deviceList] ++ sys.closes ∧
      (RemoteClient.start sys.driver).remoteDeviceConnect (sys.call options) = some (err,next) ∧
      (err ≠ .success ∧ code = 1 ∧ left = some (sys.shutDown next) ∨
        err = .success ∧ code = 0 ∧
          left = some (sys.shutDown (next.remoteDeviceDisconnect sys.alloc sys.unplug).2))) := by
  unfold cmdAttach at ends
  split at ends
  next missing =>
    cases Option.some.inj ends
    refine Or.inl ⟨?_,rfl,rfl,rfl⟩
    intro both
    simp [both.1] at missing
  next ports =>
    split at ends
    next missing =>
      cases Option.some.inj ends
      refine Or.inl ⟨?_,rfl,?_,rfl⟩
      · intro both
        simp [both.2] at missing
      · simp only [AttachSystem.opens,AttachSystem.closes]
        cases sys.driver <;> rfl
    next mutex =>
      refine Or.inr ⟨by simpa using ports,by simpa using mutex,?_⟩
      split at ends
      next _ => cases ends
      next err next connected =>
        split at ends
        next failed =>
          cases Option.some.inj ends
          exact ⟨err,next,rfl,connected,Or.inl ⟨failed,rfl,rfl⟩⟩
        next attached =>
          cases Option.some.inj ends
          exact ⟨err,next,rfl,connected,Or.inr ⟨not_ne_iff.mp attached,rfl,rfl⟩⟩

theorem attachMain_exit (ends : attachMain options sys = some (code,log,left)) :
    AttachExit options sys code log left := by
  unfold attachMain at ends
  split at ends
  next missing =>
    cases Option.some.inj ends
    refine .early [] 0 ?_ rfl (by simp)
    intro starts
    simp [starts.logMutex] at missing
  next logs =>
    split at ends
    next missing =>
      cases Option.some.inj ends
      refine .early _ {.log} ?_ rfl (fun _ => rfl)
      intro starts
      simp [starts.winsock] at missing
    next network =>
      obtain ⟨⟨exit,inner,client⟩,command,same⟩ := Option.map_eq_some_iff.mp ends
      cases same
      rcases cmdAttach_cases command with ⟨unready,rfl,held,rfl⟩ | ⟨ports,mutex,err,next,rfl,connected,ended⟩
      · refine .early _ 0 ?_ ?_ (by simp)
        · exact fun starts => unready ⟨starts.ports,starts.listMutex⟩
        · have framed := Ledger.held_frame held {ClientResource.winsock,.log}
          rw [Multiset.zero_add] at framed
          show Ledger.held (inner ++ [.released .winsock,.released .log]) {ClientResource.winsock,.log} = _
          rw [Ledger.held_append,framed]
          rfl
      · have starts : sys.Starts := ⟨by simpa using logs,by simpa using network,ports,mutex⟩
        have busy : next.Busy := by
          apply RemoteClient.step_busy (.connect (sys.call options)) _ _ rfl (RemoteClient.start_busy sys.driver)
          rw [RemoteClient.step,connected]
          rfl
        have balanced : Ledger.held ([.obtained .log,.obtained .winsock] ++ (sys.opens ++
            [.obtained .deviceList] ++ [.released .deviceList] ++ sys.closes) ++
            [.released .winsock,.released .log]) 0 = some 0 := by
          simp only [AttachSystem.opens,AttachSystem.closes]
          cases sys.driver <;> rfl
        rcases ended with ⟨fails,rfl,rfl⟩ | ⟨rfl,rfl,rfl⟩
        · exact .failed _ err next starts balanced busy connected fails
        · exact .detached _ next starts balanced busy connected

theorem AttachExit.zero_iff (exits : AttachExit options sys code log left) :
    code = 0 ↔ sys.Attaches options := by
  cases exits with
  | early _ _ unready =>
    exact iff_of_false (by decide) (fun works => unready works.starts)
  | failed _ err s starts _ _ connected fails =>
    refine iff_of_false (by decide) ?_
    intro works
    exact fails ((RemoteClient.connect_start_iff rfl connected).mpr ⟨works.imported,works.driver,works.plug⟩)
  | detached _ next starts _ _ connected =>
    obtain ⟨met,driver,plug⟩ := (RemoteClient.connect_start_iff rfl connected).mp rfl
    exact iff_of_true rfl ⟨starts,met,driver,plug⟩

theorem AttachExit.balanced (exits : AttachExit options sys code log left) :
    ∃ kept, Ledger.held log 0 = some kept ∧ (kept ≠ 0 → kept = {.log} ∧ code = 1) := by
  cases exits with
  | early _ kept unready held leak => exact ⟨kept,held,fun some => ⟨leak some,rfl⟩⟩
  | failed _ _ _ _ balanced => exact ⟨0,balanced,by simp⟩
  | detached _ _ _ balanced => exact ⟨0,balanced,by simp⟩

theorem AttachExit.shutDown (exits : AttachExit options sys code log left) :
    ∀ s, left = some s → ∃ before : RemoteClient, before.Busy ∧ s = sys.shutDown before := by
  intro s same
  cases exits with
  | early => cases same
  | failed _ _ next _ _ busy =>
    cases same
    exact ⟨next,busy,rfl⟩
  | detached _ next _ _ busy =>
    cases same
    exact ⟨_,RemoteClient.step_busy (.disconnect sys.alloc sys.unplug) _ _ trivial busy rfl,rfl⟩

theorem AttachExit.events (exits : AttachExit options sys code log left) (zero : code = 0) :
    ∃ s info, left = some s ∧ (sys.call options).info = some info ∧
      s.log = attachedAndDetached (sys.call options) info sys.unplug := by
  cases exits with
  | early => cases zero
  | failed => cases zero
  | detached _ next _ _ busy connected =>
    obtain ⟨met,driver,plug⟩ := (RemoteClient.connect_start_iff rfl connected).mp rfl
    obtain ⟨info,known⟩ := Option.ne_none_iff_exists'.mp met
    rw [driver] at connected
    obtain ⟨none,log⟩ := RemoteClient.attached_detached known rfl plug connected sys.unplug
    have empty : (next.remoteDeviceDisconnect sys.alloc sys.unplug).2.list.devices = [] := none
    have detached : (next.remoteDeviceDisconnect sys.alloc sys.unplug).2.Busy :=
      RemoteClient.step_busy (.disconnect sys.alloc sys.unplug) _ _ trivial busy rfl
    obtain ⟨_,_,_,kept⟩ := detached.shutDown (fun _ => sys.unplug) fun _ => sys.unplug
    rw [RemoteClient.disconnectAll_nil empty] at kept
    exact ⟨_,info,rfl,known,kept.trans log⟩

end AttachProgram

def attachKeyboard : ClientOptions :=
  {ClientOptions.default with
    command := .attach, serverIp := .ofBuffer (Text.ascii "10.0.0.2"), busid := .ofBuffer (Text.ascii "1-1")}

def keyboardSystem : AttachSystem := ⟨true,true,none,true,true,true,some 7,some keyboardReply,true,true⟩

end UsbOverNetwork
