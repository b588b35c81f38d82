import UsbOverNetwork.Client.Commands
import UsbOverNetwork.Server.EarlierClients

/-! The attach command and the server's main loop on the two ends of one
connection: from the words on the client's command line to the entry on the
server's list. -/
namespace UsbOverNetwork
open Runs

/-- What the client says before USB/IP traffic when this is its token. -/
def greeting (token : Token) : List UInt8 :=
  if token.chars = [] then [] else authWireMagic ++ UInt8.ofNat token.chars.length::token.chars

def attachRequest (token : Token) (busid : Busid) : List UInt8 := greeting token ++ importRequest busid

section Handshakes

variable {token : Token}

theorem authServerHandshake_output (expected : Option Token) (waits : HandshakeWaits) (socket : Socket) :
    (authServerHandshake expected waits socket).2.sent = socket.sent ∧
      (authServerHandshake expected waits socket).2.outgoing = socket.outgoing := by
  simp only [authServerHandshake]
  split
  next _ => exact ⟨rfl,rfl⟩
  next _ =>
    cases first : netRecvAllTimeout waits.header socket authWireHeaderLen authTimeoutMs with
    | mk result middle =>
      have unsent : middle.sent = socket.sent ∧ middle.outgoing = socket.outgoing := by
        cases first
        exact ⟨rfl,rfl⟩
      cases result with
      | full header =>
        simp only
        split
        next _ => exact unsent
        next _ =>
          split
          next _ => exact unsent
          next _ =>
            cases second : netRecvAllTimeout waits.token middle (header.getD 4 0).toNat authTimeoutMs with
            | mk result last =>
              have again : last.sent = middle.sent ∧ last.outgoing = middle.outgoing := by
                cases second
                exact ⟨rfl,rfl⟩
              have both := And.intro (again.1.trans unsent.1) (again.2.trans unsent.2)
              cases result <;> exact both
      | _ => exact unsent

theorem server_greeted (fits : token.chars.length ≤ authTokenMaxLen) {waits : HandshakeWaits}
    {socket : Socket} {rest : List UInt8} (stream : socket.stream = greeting token ++ rest)
    (inTime : token.chars ≠ [] → waits.InTime socket token.chars.length) :
    ∃ next, authServerHandshake (some token) waits socket = (.success,next) ∧ next.stream = rest ∧
      next.sent = socket.sent ∧ next.outgoing = socket.outgoing := by
  obtain ⟨sent,outgoing⟩ := authServerHandshake_output (some token) waits socket
  by_cases blank : token.chars = []
  · refine ⟨socket,?_,?_,rfl,rfl⟩
    · simp [authServerHandshake,blank,Option.filter]
    · rw [stream,greeting,if_pos blank,List.nil_append]
  · rw [greeting,if_neg blank] at stream
    obtain ⟨next,left,accepted⟩ := authServerHandshake_frame blank blank fits stream (inTime blank)
    rw [if_pos ((tokenDiff_short fits fits).mpr rfl)] at accepted
    rw [accepted] at sent outgoing
    exact ⟨next,accepted,left,sent,outgoing⟩

theorem client_greets (fits : token.chars.length ≤ authTokenMaxLen) {call : ConnectCall}
    (presents : call.token = some token) {remote : Socket} (delivers : remote.Delivers) :
    ∃ next, call.handshake remote = (.success,next) ∧ next.Delivers ∧ next.stream = remote.stream ∧
      next.sent = remote.sent ++ greeting token := by
  rw [ConnectCall.handshake,presents]
  by_cases blank : token.chars = []
  · refine ⟨remote,?_,delivers,rfl,?_⟩
    · simp [authIsEnabled,blank]
    · rw [greeting,if_pos blank,List.append_nil]
  · rw [authIsEnabled_some blank,if_pos rfl,authClientHandshake_frame blank fits,greeting,if_neg blank]
    obtain ⟨next,sent,delivered,bytes,same⟩ := sendExact_delivers remote
      (authWireMagic ++ UInt8.ofNat token.chars.length::token.chars) delivers
    simp only [sendExact,Prod.mk.injEq] at sent
    obtain ⟨all,rfl⟩ := sent
    refine ⟨_,Prod.ext ?_ rfl,delivered,?_,bytes⟩
    · simp only
      split at all
      next _ => cases all
      next whole => exact if_pos (not_ne_iff.mp whole)
    · rw [Socket.stream,Socket.stream,same]

end Handshakes

/-- What is needed of the server for the command to be heard: its loop is waiting,
its token is the client's and there is room for one more client. What arrives is
what the client says. -/
structure AttachHeard (s : MainLoop) (token : Token) (busid : Busid) (socket : Socket)
    (waits : HandshakeWaits) (outcomes : CliOutcomes) : Prop where
  accepting : s.phase = .accepting
  running : s.running = true
  expects : s.authToken = some token
  fits : token.chars.length ≤ authTokenMaxLen
  room : s.server.manager.clientCount < maxClients
  alloc : outcomes.alloc ≠ none
  answers : socket.Delivers
  carries : socket.stream = attachRequest token busid
  inTime : token.chars ≠ [] → waits.InTime socket token.chars.length

def attachSteps (socket : Socket) (waits : HandshakeWaits) (outcomes : CliOutcomes) : List MainAction :=
  [.accept socket .empty 0,.authenticate waits,.session outcomes,.session outcomes]

namespace AttachHeard

variable {s : MainLoop} {token : Token} {busid : Busid} {socket : Socket} {waits : HandshakeWaits}
  {outcomes : CliOutcomes}

theorem authenticates (heard : AttachHeard s token busid socket waits outcomes) :
    ∃ greeted log, greeted.stream = importRequest busid ∧ greeted.sent = socket.sent ∧
      greeted.outgoing = socket.outgoing ∧
      Run MainLoop.step s [.accept socket .empty 0,.authenticate waits]
        {s with
          phase := .session s.connections (.accepted s.server greeted .empty 0)
          connections := s.connections+1
          log := log ++ s.log} := by
  obtain ⟨greeted,accepted,left,sent,outgoing⟩ := server_greeted heard.fits heard.carries heard.inTime
  have first : MainLoop.step (.accept socket .empty 0) s = some {s with
      phase := .accepted s.connections socket .empty 0
      connections := s.connections+1} := by
    simp only [MainLoop.step,heard.accepting,heard.running,if_true]
  by_cases blank : token.chars = []
  · have off : s.authToken.filter (·.chars ≠ []) = none := by simp [heard.expects,Option.filter,blank]
    have same : greeted = socket := by
      simp only [authServerHandshake,Option.filter,blank,ne_eq,not_true_eq_false,decide_false,
        Bool.false_eq_true,if_false] at accepted
      exact (Prod.mk.inj accepted).2.symm
    subst same
    refine ⟨greeted,[],left,rfl,rfl,.cons _ _ _ _ _ first (.single _ ?_)⟩
    simp only [MainLoop.step,off]
    rfl
  · have on : s.authToken.filter (·.chars ≠ []) = some token := by
      simp [heard.expects,Option.filter,blank]
    refine ⟨greeted,[.handshake s.connections token .success],left,sent,outgoing,
      .cons _ _ _ _ _ first (.single _ ?_)⟩
    simp only [MainLoop.step,on,accepted,if_true]
    rfl

end AttachHeard

def attachReply (err : ErrorCode) (session : CliSession) : List UInt8 :=
  (usbipPackHeaderBasic (importReplyHeader err)).image ++
    if err = .success then importReplyDevice session.server session.client else []

/-- What the server makes of the request: it lends the device and goes on, or
lends it to nobody. -/
structure AttachAnswered (busid : Busid) (session : CliSession) (err : ErrorCode) : Prop where
  read : session.client.socket.stream = []
  lends : err = .success ↔ session.server.devices.lending busid = some (.exported,session.client.id)
  serves : err = .success ↔ session.pc = .loop
  entry : err = .success → ∃ entry, deviceListFind session.server.devices busid = some entry ∧
    importReplyDevice session.server session.client = (usbipPackDevice (usbDeviceToUsbip entry.device)).image

theorem Free.unlent {base server : Server} {client : ClientConnection} (free : Free base server client)
    (busid : Busid) (id : UInt32) : server.devices.lending busid ≠ some (.exported,id) := by
  intro lent
  obtain ⟨entry,found,same⟩ := Option.map_eq_some_iff.mp lent
  exact (free.devices.idle entry (Keyed.find_mem _ found)).unexported (Prod.mk.inj same).1

/-- The attempt to attach the device, and the record that a reply would have. -/
theorem attach_answers {base server : Server} {client : ClientConnection} (enumerated : base.devices.Enumerated)
    (free : Free base server client) (busid : Busid) (outcome : AttachOutcome) :
    let attempt := clientAttachDevice server client busid outcome
    (attempt.1 = .success ↔ attempt.2.1.devices.lending busid = some (.exported,attempt.2.2.id)) ∧
      (attempt.1 = .success → ∃ entry, deviceListFind attempt.2.1.devices busid = some entry ∧
        importReplyDevice attempt.2.1 attempt.2.2 = (usbipPackDevice (usbDeviceToUsbip entry.device)).image) := by
  intro attempt
  obtain ⟨attachment,_,_⟩ := attach_spec enumerated free busid outcome
  rcases attachment with ⟨ok,just⟩ | ⟨failed,left⟩
  · obtain ⟨device,_⟩ := attach_lends server client busid outcome ok
    obtain ⟨held,retired,holding⟩ := just
    have same : held = busid := Option.some.inj (holding.device.symm.trans device)
    subst same
    obtain ⟨entry,found,exported,clientId,_⟩ := holding.devices.lent
    refine ⟨iff_of_true ok ?_,fun _ => ⟨entry,found,?_⟩⟩
    · rw [DeviceList.lending,found,Option.map_some,exported,clientId]
    · rw [importReplyDevice,device,Option.bind_some,Server.device,found]
      rfl
  · exact ⟨iff_of_false failed (left.unlent busid _),fun ok => absurd ok failed⟩

namespace AttachHeard

variable {s : MainLoop} {token : Token} {busid : Busid} {socket : Socket} {waits : HandshakeWaits}
  {outcomes : CliOutcomes}

theorem answered (heard : AttachHeard s token busid socket waits outcomes)
    (enumerated : s.server.devices.Enumerated) :
    ∃ final session err, Run MainLoop.step s (attachSteps socket waits outcomes) final ∧
      final.phase = .session s.connections (.serving session) ∧
      session.client.socket.sent = socket.sent ++ attachReply err session ∧ AttachAnswered busid session err := by
  obtain ⟨greeted,log,stream,sent,outgoing,authenticated⟩ := heard.authenticates
  obtain ⟨pointer,allocated⟩ := Option.ne_none_iff_exists'.mp heard.alloc
  let client := createClient s.server.manager.nextClientId greeted .empty 0
  let server : Server := {s.server with manager :=
    ⟨pointer::s.server.manager.clients,s.server.manager.clientCount+1,s.server.manager.nextClientId+1⟩}
  have free : Free s.server server client :=
    ⟨rfl,rfl,rfl,rfl,⟨rfl,enumerated.idle⟩,[],by simp [server],by simp⟩
  have added : Cli.step outcomes .session (.accepted s.server greeted .empty 0) =
      some (.serving ⟨server,client,pointer,true,.loop,0,0,[]⟩) := by
    have roomy : ¬s.server.manager.clientCount ≥ maxClients := Nat.not_le.mpr heard.room
    simp only [Cli.step,clientManagerAdd,if_neg roomy,allocated]
    rfl
  obtain ⟨next,read,rest,unsent,kept⟩ := recvRequest_import client.socket busid []
    (by rw [List.append_nil]; exact stream)
  have answers : ({client with socket := next} : ClientConnection).socket.Delivers := by
    have same : next.outgoing = socket.outgoing := kept.trans outgoing
    simpa [Socket.Delivers,same] using heard.answers
  obtain ⟨last,handled,input,written⟩ := handle_import server {client with socket := next} busid
    (outcomes.requests 0) answers
  have views := attach_answers enumerated (free.withSocket next) busid (outcomes.requests 0).attach
  rcases attempt : clientAttachDevice server {client with socket := next} busid
    (outcomes.requests 0).attach with ⟨err,after,attached⟩
  rw [attempt] at handled written views
  obtain ⟨lends,record⟩ := views
  let session : CliSession :=
    ⟨after,{attached with socket := last},pointer,true,if err = .success then .loop else .detach,1,0,[]⟩
  have requested : Cli.step outcomes .session (.serving ⟨server,client,pointer,true,.loop,0,0,[]⟩) =
      some (.serving session) := by
    have state : client.state = .connected := rfl
    have request : clientHandleRequest server client (outcomes.requests 0) =
        some (err,after,{attached with socket := last}) := by
      simp only [clientHandleRequest,read]
      exact congrArg some handled
    simp only [Cli.step,Cli.sessionTurn,state,if_true,request]
    rfl
  let begun : MainLoop := {s with connections := s.connections+1, log := log ++ s.log}
  have third : MainLoop.step (.session outcomes)
      {begun with phase := .session s.connections (.accepted s.server greeted .empty 0)} =
      some {begun with
        phase := .session s.connections (.serving ⟨server,client,pointer,true,.loop,0,0,[]⟩)} := by
    simp only [MainLoop.step,added,Option.map_some,MainLoop.resume,heard.running,begun]
    rfl
  have fourth : MainLoop.step (.session outcomes)
      {begun with phase := .session s.connections (.serving ⟨server,client,pointer,true,.loop,0,0,[]⟩)} =
      some {begun with
        phase := .session s.connections (.serving session)
        log := .request s.connections::begun.log} := by
    simp only [MainLoop.step,requested,Option.map_some,MainLoop.resume,heard.running,begun]
    rfl
  refine ⟨_,session,err,authenticated.append (.cons _ _ _ _ _ third (.single _ fourth)),rfl,?_,?_⟩
  · rw [← sent]
    exact written.trans (by rw [unsent]; rfl)
  · refine ⟨?_,lends,?_,record⟩
    · show last.stream = []
      rw [Socket.stream,input]
      exact rest
    · show err = .success ↔ (if err = .success then CliPc.loop else .detach) = .loop
      by_cases ok : err = .success
      · exact iff_of_true ok (if_pos ok)
      · refine iff_of_false ok ?_
        rw [if_neg ok]
        decide

end AttachHeard

structure AttachSystem.Ready (sys : AttachSystem) : Prop where
  starts : sys.Starts
  alloc : sys.alloc ≠ none

section Client

variable {options : ClientOptions} {sys : AttachSystem} {token : Token} {remote : Socket}

theorem attach_asks (presents : authGetToken options.authToken sys.env = token)
    (fits : token.chars.length ≤ authTokenMaxLen) (delivers : remote.Delivers) (err : ErrorCode)
    (device : UsbipUsbDevice)
    (stream : remote.stream = (usbipPackHeaderBasic (importReplyHeader err)).image ++
      if err = .success then (usbipPackDevice device).image else []) :
    ∃ greeted next, (sys.call options).handshake remote = (.success,greeted) ∧
      remoteDeviceConnect greeted options.busid.chars = some
        (if err = .success then .ok device
          else .error (if err = .deviceBusy then .deviceBusy else .usbNotFound),next) ∧
      next.stream = [] ∧ next.sent = remote.sent ++ attachRequest token options.busid := by
  have named : (sys.call options).token = some token := by rw [← presents]; rfl
  obtain ⟨greeted,shaken,delivered,unread,sent⟩ := client_greets fits named delivers
  obtain ⟨next,exchanged,left,asked⟩ := connect_reply greeted options.busid.chars delivered err device
    (unread.trans stream)
  refine ⟨greeted,next,shaken,exchanged,left,?_⟩
  rw [asked,sent,attachRequest,List.append_assoc,CString.ofBuffer_chars]

theorem connect_answered {call : ConnectCall} {opened : Bool} {serverIp busid : Token} {greeted next : Socket}
    {result : Except ErrorCode UsbipUsbDevice} (ip : call.serverIp = some serverIp)
    (name : call.busid = some busid) (alloc : call.alloc ≠ none) (socket : call.socket = some remote)
    (shaken : call.handshake remote = (.success,greeted))
    (exchanged : remoteDeviceConnect greeted busid.chars = some (result,next)) :
    (∃ err after, (RemoteClient.start opened).remoteDeviceConnect call = some (err,after)) ∧
      call.info = result.toOption := by
  obtain ⟨address,allocated⟩ := Option.ne_none_iff_exists'.mp alloc
  have unlisted : address ∉ (RemoteClient.start opened).list.devices.map RemoteDevice.address :=
    List.not_mem_nil
  constructor
  · simp only [RemoteClient.remoteDeviceConnect,ip,name,allocated,socket,if_neg unlisted,
      RemoteClient.importDevice,shaken,ne_eq,not_true_eq_false,if_false,exchanged]
    cases result with
    | error failure => exact ⟨_,_,rfl⟩
    | ok info =>
      simp only
      split
      · exact ⟨_,_,rfl⟩
      · exact ⟨_,_,rfl⟩
  · simp only [ConnectCall.info,ip,name,allocated,socket,shaken,exchanged]
    cases result <;> rfl

theorem attach_main_answered (ready : sys.Ready)
    (connected : ∃ err after, (RemoteClient.start sys.driver).remoteDeviceConnect (sys.call options) =
      some (err,after)) : ∃ code log left, attachMain options sys = some (code,log,left) := by
  obtain ⟨err,after,ended⟩ := connected
  obtain ⟨⟨logMutex,winsock,ports,listMutex⟩,_⟩ := ready
  simp only [attachMain,cmdAttach,logMutex,winsock,ports,listMutex,ended,Bool.not_true,Bool.false_eq_true,
    if_false]
  split
  · exact ⟨_,_,_,rfl⟩
  · exact ⟨_,_,_,rfl⟩

end Client

/-- From one command line to the other machine's list. Whatever the server has
served before, the attach command of a client with its token ends, and it exits
with 0 exactly when the server has lent the device to this client and the driver
takes it. What one end sends is what the other reads, to the last byte, and the
device that is plugged in is the one on the server's list. -/
theorem attach_end_to_end {server : Server} {keyArg env : Option Token} {past : List MainAction}
    {s : MainLoop} {options : ClientOptions} {token : Token} {socket : Socket} {waits : HandshakeWaits}
    {outcomes : CliOutcomes} (enumerated : server.devices.Enumerated)
    (reached : Run MainLoop.step (.start server keyArg env) past s)
    (heard : AttachHeard s token options.busid socket waits outcomes) :
    ∃ final session reply, Run MainLoop.step s (attachSteps socket waits outcomes) final ∧
      final.phase = .session s.connections (.serving session) ∧ session.client.socket.stream = [] ∧
      session.client.socket.sent = socket.sent ++ reply ∧
      ∀ (sys : AttachSystem) (remote : Socket), sys.Ready → authGetToken options.authToken sys.env = token →
        sys.socket = some remote → remote.Delivers → remote.stream = reply →
        (∃ greeted result next, (sys.call options).handshake remote = (.success,greeted) ∧
          remoteDeviceConnect greeted options.busid.chars = some (result,next) ∧
          next.sent = remote.sent ++ socket.stream ∧ next.stream = []) ∧
        ∃ code log left, attachMain options sys = some (code,log,left) ∧
          (code = 0 ↔ sys.driver = true ∧ sys.plug = true ∧
            session.server.devices.lending options.busid = some (.exported,session.client.id)) ∧
          (code = 0 → ∃ client entry, left = some client ∧
            deviceListFind session.server.devices options.busid = some entry ∧
            client.log = attachedAndDetached (sys.call options) (usbDeviceToUsbip entry.device) sys.unplug) := by
  have clean : MainLoop.Clean server (some (authGetToken keyArg env)) s := by
    apply reached.invariant _ (MainLoop.step_clean enumerated)
    exact ⟨.refl enumerated,rfl,by simp [MainLoop.start]⟩
  obtain ⟨final,session,err,run,phase,sent,answer⟩ := heard.answered (clean.leaves.enumerated enumerated)
  refine ⟨final,session,_,run,phase,answer.read,sent,?_⟩
  intro sys remote ready presents dialled delivers stream
  -- a refused import has no record, and any will do
  obtain ⟨device,record,listed⟩ : ∃ device : UsbipUsbDevice, (remote.stream =
      (usbipPackHeaderBasic (importReplyHeader err)).image ++
        if err = .success then (usbipPackDevice device).image else []) ∧
      (err = .success → ∃ entry, deviceListFind session.server.devices options.busid = some entry ∧
        device = usbDeviceToUsbip entry.device) := by
    by_cases ok : err = .success
    · obtain ⟨entry,found,reply⟩ := answer.entry ok
      exact ⟨usbDeviceToUsbip entry.device,by rw [stream,attachReply,reply],fun _ => ⟨entry,found,rfl⟩⟩
    · exact ⟨.zero,by rw [stream,attachReply,if_neg ok,if_neg ok],fun good => absurd good ok⟩
  obtain ⟨greeted,next,shaken,exchanged,left,asked⟩ := attach_asks presents heard.fits delivers err device record
  obtain ⟨connected,info⟩ := @connect_answered remote (sys.call options) sys.driver _ _ greeted next _ rfl rfl
    ready.alloc dialled shaken exchanged
  obtain ⟨code,log,leaves,ends⟩ := attach_main_answered ready connected
  have exits := attachMain_exit ends
  refine ⟨⟨greeted,_,next,shaken,exchanged,by rw [asked,heard.carries],left⟩,code,log,leaves,ends,?_,?_⟩
  · rw [exits.zero_iff,← answer.lends]
    constructor
    · intro works
      refine ⟨works.driver,works.plug,?_⟩
      by_contra failed
      apply works.imported
      rw [info,if_neg failed]
      rfl
    · rintro ⟨driver,plug,ok⟩
      refine ⟨ready.starts,?_,driver,plug⟩
      rw [info,if_pos ok]
      exact Option.some_ne_none _
  · intro zero
    obtain ⟨client,imported,same,known,events⟩ := exits.events zero
    have ok : err = .success := by
      by_contra failed
      rw [info,if_neg failed] at known
      cases known
    rw [info,if_pos ok] at known
    cases known
    obtain ⟨entry,found,rfl⟩ := listed ok
    exact ⟨client,entry,same,found,events⟩

/-- Both ends know a token, and the keyboard is asked for. -/
def knowingClient : ClientOptions :=
  {attachKeyboard with busid := sharedKeyboard.busid, authToken := some shortToken}

def knowingSocket : Socket :=
  ⟨RecvEvent.unread (attachRequest shortToken sharedKeyboard.busid) [],.closed,[],[]⟩

theorem knowing_heard : AttachHeard (.start Cli.keyboardServer (some shortToken) none) shortToken
    knowingClient.busid knowingSocket ⟨.prompt,.prompt⟩ Cli.willing where
  accepting := rfl
  running := rfl
  expects := rfl
  fits := by decide
  room := by decide
  alloc := by decide
  answers := by simp [Socket.Delivers,knowingSocket]
  carries := by
    show knowingSocket.stream = attachRequest shortToken sharedKeyboard.busid
    simp [knowingSocket,Socket.stream]
  inTime := fun _ => prompt_inTime _ _

def lendsKeyboard (s : MainLoop) : Bool :=
  match s.phase with
  | .session _ (.serving session) =>
    session.server.devices.lending sharedKeyboard.busid = some (.exported,session.client.id)
  | _ => false

theorem attach_end_to_end_keyboard : ∃ (final : MainLoop) (session : CliSession) (reply : List UInt8)
    (log : ClientLog) (left : Option RemoteClient),
    Run MainLoop.step (.start Cli.keyboardServer (some shortToken) none)
      (attachSteps knowingSocket ⟨.prompt,.prompt⟩ Cli.willing) final ∧
    session.client.socket.sent = reply ∧
    session.server.devices.lending sharedKeyboard.busid = some (.exported,session.client.id) ∧
    attachMain knowingClient {keyboardSystem with socket := some (carrying reply)} = some (0,log,left) := by
  obtain ⟨final,session,reply,run,phase,_,sent,client⟩ :=
    attach_end_to_end Cli.keyboardServer_enumerated (.nil _) knowing_heard
  obtain ⟨_,code,log,left,ends,zero,_⟩ := client {keyboardSystem with socket := some (carrying reply)}
    (carrying reply) ⟨⟨rfl,rfl,rfl,rfl⟩,Option.some_ne_none 7⟩ rfl rfl (carrying_delivers reply)
    (carrying_stream reply)
  obtain ⟨other,again,lends⟩ := run_of_check MainLoop.step
    (attachSteps knowingSocket ⟨.prompt,.prompt⟩ Cli.willing)
    (.start Cli.keyboardServer (some shortToken) none) lendsKeyboard (by decide +kernel)
  cases run.unique again
  rw [lendsKeyboard,phase] at lends
  have lent := of_decide_eq_true lends
  cases zero.mpr ⟨rfl,rfl,lent⟩
  exact ⟨final,session,reply,log,left,run,sent,lent,ends⟩

end UsbOverNetwork
